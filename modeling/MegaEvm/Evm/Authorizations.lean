/-
This file models how the code finds out, before it happens, which authorizations of a
transaction the engine will apply, and shows that it finds out exactly those. The
engine goes through the list and changes each authority as it goes: it sets the
delegation and raises the nonce, so that a later authorization of the same authority
meets another nonce. The scan changes nothing. It keeps the nonces the authorities
would have by then in a map, and it knows by how much the nonce of the sender is
still going to rise if it runs before the sender is charged.
-/

import Mathlib.Data.List.Forall2
import MegaEvm.Revm.Journal

namespace MegaEvm

open Account World

/-- An authorization of EIP-7702: the delegate, and the authority its signature recovers to. -/
structure Authorization where
  chainId : U256
  nonce : Nat
  address : Address
  authority : Option Address
deriving DecidableEq

structure AppliedAuthorization where
  authority : Address
  createsAuthority : Bool
deriving DecidableEq

/-- The successor of a nonce. It saturates. -/
def nextNonce (nonce : Nat) : Nat :=
  min (nonce + 1) u64Max

/-- The authority of an authorization for this chain whose nonce can still rise. -/
def Authorization.recover (authorization : Authorization) (chainId : U256) : Option Address :=
  if authorization.chainId ≠ 0 ∧ authorization.chainId ≠ chainId then none
  else if authorization.nonce = u64Max then none
  else authorization.authority

namespace Account

/-- The account has code that is not a delegation. -/
def hasOwnCode (account : Account) : Bool :=
  match account.info.code with
  | some (.legacy bytes) => !bytes.isEmpty
  | some (.eip7702 _) => false
  | none => false

def isLoadedAsNotExistingNotTouched (account : Account) : Bool :=
  account.status.loadedAsNotExisting && !account.status.touched

/-- The account is not in the state, neither in the database nor by the transaction. -/
def isAbsent (account : Account) : Bool :=
  account.isEmpty && account.isLoadedAsNotExistingNotTouched

end Account

/-- The authorities that come into existence with the authorizations. -/
def materialized (applied : List AppliedAuthorization) : List Address :=
  (applied.filter AppliedAuthorization.createsAuthority).map AppliedAuthorization.authority

theorem materialized_concat (applied : List AppliedAuthorization) (last : AppliedAuthorization) :
    materialized (applied ++ [last]) =
      if last.createsAuthority then materialized applied ++ [last.authority]
      else materialized applied := by
  unfold materialized
  split_ifs with creates <;> simp [creates]

/-! ### The scan -/

/-- The journal the scan reads, the nonces the authorities will have, and the authorizations that
will be applied. -/
structure AuthorizationScan where
  journal : Journal
  simulatedAuthorities : Address → Option Nat
  applied : List AppliedAuthorization

namespace AuthorizationScan

variable (caller : Address) (chainId : U256) (callerNonceAlreadyBumped : Bool)

/-- The nonce of an authority and whether it is absent, or nothing if it has code of its own. The
read fails if the database does. -/
def readAuthority (scan : AuthorizationScan) (authority : Address) :
    Option (Journal × Option (Nat × Bool)) :=
  match scan.simulatedAuthorities authority with
  | some nonce => some (scan.journal, some (nonce, false))
  | none =>
    match scan.journal.inspectAccount authority true with
    | (_, none) => none
    | (journal, some account) =>
      if account.hasOwnCode then some (journal, none)
      else
        let effectiveNonce :=
          if !callerNonceAlreadyBumped && authority == caller then nextNonce account.info.nonce
          else account.info.nonce
        some (journal,
          some (effectiveNonce, account.isEmpty && account.isLoadedAsNotExistingNotTouched))

/-- One authorization of the list. -/
def scanAuthorization (scan : AuthorizationScan) (authorization : Authorization) :
    Option AuthorizationScan :=
  match authorization.recover chainId with
  | none => some scan
  | some authority =>
    match scan.readAuthority caller callerNonceAlreadyBumped authority with
    | none => none
    | some (journal, none) => some { scan with journal }
    | some (journal, some (authorityNonce, createsAuthority)) =>
      if authorization.nonce ≠ authorityNonce then some { scan with journal }
      else
        some
          { journal
            simulatedAuthorities :=
              Function.update scan.simulatedAuthorities authority (some (nextNonce authorityNonce))
            applied := scan.applied ++ [{ authority, createsAuthority }] }

/-- The scan as it goes over a list. -/
def scanAll (scan : AuthorizationScan) (authorizations : List Authorization) :
    Option AuthorizationScan :=
  authorizations.foldlM (scanAuthorization caller chainId callerNonceAlreadyBumped) scan

end AuthorizationScan

/-- The authorizations of a list that will be applied, by the journal as it is now. -/
def scanAppliedEip7702Authorizations (journal : Journal) (caller : Address) (chainId : U256)
    (authorizations : List Authorization) (callerNonceAlreadyBumped : Bool) :
    Option (List AppliedAuthorization) :=
  (AuthorizationScan.scanAll caller chainId callerNonceAlreadyBumped
    { journal, simulatedAuthorities := fun _ => none, applied := [] } authorizations).map
      AuthorizationScan.applied

/-! ### The engine -/

/-- An authority before and after an authorization of it was applied. -/
structure AuthorityChange where
  authority : Address
  before : Account
  after : Account

namespace World

/-- The engine charges the sender of a call and raises its nonce. -/
def deductCaller (world : World) (caller : Address) (balance : U256) : World :=
  let account := world caller
  world.set caller
    { account with
      info := { account.info with balance, nonce := nextNonce account.info.nonce }
      status := { account.status with touched := true } }

end World

/-- The hash of the delegation to an address. -/
abbrev DelegationHash := Address → CodeHash

/-- An account after its authorization: the delegation is set, or cleared by the zero address. -/
def Account.delegated (hash : DelegationHash) (account : Account) (address : Address) : Account :=
  { account with
    info :=
      { account.info with
        codeHash := if address = 0 then keccakEmpty else hash address
        code := some (if address = 0 then .legacy [] else .eip7702 address)
        nonce := nextNonce account.info.nonce }
    status := { account.status with touched := true } }

namespace World

variable (hash : DelegationHash) (chainId : U256)

/-- The engine applies one authorization, if it passes. -/
def applyAuthorization (world : World) (authorization : Authorization) :
    World × List AuthorityChange :=
  match authorization.recover chainId with
  | none => (world, [])
  | some authority =>
    let account := world authority
    if account.hasOwnCode then (world, [])
    else if authorization.nonce ≠ account.info.nonce then (world, [])
    else
      let delegated := account.delegated hash authorization.address
      (world.set authority delegated, [{ authority, before := account, after := delegated }])

/-- The engine goes through the list, each authorization on the world the ones before it left. -/
def applyEip7702AuthList (world : World) : List Authorization → List AuthorityChange
  | [] => []
  | authorization :: rest =>
    let (next, changes) := world.applyAuthorization hash chainId authorization
    changes ++ next.applyEip7702AuthList rest

end World

/-! ### What the scan reads -/

namespace Journal

/-- Every account as an inspection gives it. -/
def loadedWorld (journal : Journal) : World := fun address =>
  hydrated journal.database ((journal.state address).getD (journal.database.account address))

variable {journal : Journal}

theorem hydrated_hydrated (database : Database) (account : Account) :
    hydrated database (hydrated database account) = hydrated database account := by
  unfold hydrated
  by_cases lazy : account.info.codeHash ≠ keccakEmpty ∧ account.info.code = none
  · rw [if_pos lazy]
    refine if_neg ?_
    rintro ⟨_, unloaded⟩
    cases unloaded
  · rw [if_neg lazy, if_neg lazy]

/-- Loading code gives the account with its code, if it gives one. -/
theorem hydrate_spec (journal : Journal) (account : Account) :
    (journal.hydrate account).1.database = journal.database ∧
      (journal.hydrate account).1.state = journal.state ∧
      ∀ loaded, (journal.hydrate account).2 = some loaded →
        loaded = hydrated journal.database account := by
  unfold hydrate hydrated query
  split_ifs with lazy fails
  · exact ⟨rfl, rfl, nofun⟩
  · exact ⟨rfl, rfl, fun loaded found => (Option.some.inj found).symm⟩
  · exact ⟨rfl, rfl, fun loaded found => (Option.some.inj found).symm⟩

variable {address : Address} {account : Account}

theorem loadedWorld_setAccount
    (same : hydrated journal.database account = journal.loadedWorld address) :
    (journal.setAccount address account).loadedWorld = journal.loadedWorld := by
  funext other
  show hydrated journal.database
    ((Function.update journal.state address (some account) other).getD _) = _
  by_cases isSame : other = address
  · subst isSame
    rw [Function.update_self, Option.getD_some, same]
  · rw [Function.update_of_ne isSame]
    rfl

theorem keep_spec {kept : Journal}
    (loads : ∃ read : Journal, read.database = journal.database ∧ read.state = journal.state ∧
      ∃ found : Option Account, keep address (read, found) = (kept, some account) ∧
        ∀ loaded, found = some loaded → loaded = journal.loadedWorld address) :
    account = journal.loadedWorld address ∧ kept.loadedWorld = journal.loadedWorld := by
  obtain ⟨read, database, state, found, keeps, loads⟩ := loads
  cases found with
  | none => cases keeps
  | some loaded =>
    cases keeps
    have isView := loads account rfl
    have sameView : read.loadedWorld = journal.loadedWorld := by
      unfold loadedWorld
      rw [database, state]
    refine ⟨isView, (loadedWorld_setAccount ?_).trans sameView⟩
    rw [sameView, isView, database]
    exact hydrated_hydrated ..

/-- An inspection with the code gives the account of the view, and leaves the view as it is. -/
theorem inspectAccount_spec {inspected : Journal}
    (read : journal.inspectAccount address true = (inspected, some account)) :
    account = journal.loadedWorld address ∧ inspected.loadedWorld = journal.loadedWorld := by
  unfold inspectAccount query at read
  cases entry : journal.state address with
  | some present =>
    rw [entry] at read
    obtain ⟨database, state, loads⟩ := hydrate_spec journal present
    have isView : journal.loadedWorld address = hydrated journal.database present := by
      rw [loadedWorld, entry]
      rfl
    exact keep_spec ⟨_, database, state, _, read, fun loaded found =>
      (loads loaded found).trans isView.symm⟩
  | none =>
    rw [entry] at read
    have isView : journal.loadedWorld address =
        hydrated journal.database (journal.database.account address) := by
      rw [loadedWorld, entry]
      rfl
    by_cases fails : journal.database.failing journal.queries = true
    · rw [if_pos fails] at read
      cases read
    · rw [if_neg fails] at read
      obtain ⟨database, state, loads⟩ := hydrate_spec
        { journal with queries := journal.queries + 1 } (journal.database.account address)
      exact keep_spec ⟨_, database, state, _, read, fun loaded found =>
        (loads loaded found).trans isView.symm⟩

variable (answers : ∀ number, journal.database.failing number = false)

include answers

theorem hydrate_isSome (account : Account) :
    ∃ loaded, (journal.hydrate account).2 = some loaded := by
  unfold hydrate query
  rw [answers]
  by_cases lazy : account.info.codeHash ≠ keccakEmpty ∧ account.info.code = none
  · rw [if_pos lazy]
    exact ⟨_, rfl⟩
  · rw [if_neg lazy]
    exact ⟨_, rfl⟩

/-- A database that answers lets every inspection succeed, and is still there after it. -/
theorem inspectAccount_isSome (address : Address) :
    ∃ inspected account, journal.inspectAccount address true = (inspected, some account) ∧
      inspected.database = journal.database := by
  have keeps (read : Journal) (database : read.database = journal.database) (account : Account) :
      ∃ inspected kept, keep address (read.hydrate account) = (inspected, some kept) ∧
        inspected.database = journal.database := by
    obtain ⟨loaded, found⟩ := hydrate_isSome (database ▸ answers) account
    have sameDatabase := (hydrate_spec read account).1
    revert found sameDatabase
    rcases read.hydrate account with ⟨hydratedJournal, result⟩
    rintro rfl sameDatabase
    exact ⟨_, _, rfl, sameDatabase.trans database⟩
  unfold inspectAccount query
  rw [answers]
  cases journal.state address with
  | some present => exact keeps journal rfl present
  | none => exact keeps { journal with queries := journal.queries + 1 } rfl _

end Journal

/-! ### The scan mirrors the engine -/

namespace AuthorizationScan

/-- What one authorization of the list does to the scan. -/
inductive Scanned (caller : Address) (chainId : U256) (bumped : Bool) (scan : AuthorizationScan)
    (authorization : Authorization) : AuthorizationScan → Prop
  | unrecovered (recovers : authorization.recover chainId = none) :
      Scanned caller chainId bumped scan authorization scan
  | ownCode {authority : Address} {journal : Journal}
      (recovers : authorization.recover chainId = some authority)
      (reads : scan.readAuthority caller bumped authority = some (journal, none)) :
      Scanned caller chainId bumped scan authorization { scan with journal }
  | otherNonce {authority : Address} {journal : Journal} {nonce : Nat} {creates : Bool}
      (recovers : authorization.recover chainId = some authority)
      (reads : scan.readAuthority caller bumped authority = some (journal, some (nonce, creates)))
      (mismatch : authorization.nonce ≠ nonce) :
      Scanned caller chainId bumped scan authorization { scan with journal }
  | applies {authority : Address} {journal : Journal} {creates : Bool}
      (recovers : authorization.recover chainId = some authority)
      (reads : scan.readAuthority caller bumped authority =
        some (journal, some (authorization.nonce, creates))) :
      Scanned caller chainId bumped scan authorization
        { journal
          simulatedAuthorities :=
            Function.update scan.simulatedAuthorities authority
              (some (nextNonce authorization.nonce))
          applied := scan.applied ++ [{ authority, createsAuthority := creates }] }

variable {next : AuthorizationScan} {authorization : Authorization}

theorem scanned_of_some {caller : Address} {chainId : U256} {bumped : Bool}
    {scan : AuthorizationScan}
    (scans : scan.scanAuthorization caller chainId bumped authorization = some next) :
    Scanned caller chainId bumped scan authorization next := by
  unfold scanAuthorization at scans
  cases recovers : authorization.recover chainId with
  | none =>
    rw [recovers] at scans
    cases scans
    exact .unrecovered recovers
  | some authority =>
    rw [recovers] at scans
    dsimp only at scans
    rcases reads : scan.readAuthority caller bumped authority with
      _ | ⟨journal, _ | ⟨nonce, creates⟩⟩
    · rw [reads] at scans
      cases scans
    · rw [reads] at scans
      cases scans
      exact .ownCode recovers reads
    · rw [reads] at scans
      dsimp only at scans
      split_ifs at scans with mismatch
      · cases scans
        exact .otherNonce recovers reads mismatch
      · cases scans
        rw [not_not] at mismatch
        exact mismatch ▸ .applies recovers (mismatch ▸ reads)

/-- What the scan reads of an authority, by the accounts it started from. -/
def expectedRead (caller : Address) (bumped : Bool) (view : World)
    (simulated : Address → Option Nat) (authority : Address) : Option (Nat × Bool) :=
  match simulated authority with
  | some nonce => some (nonce, false)
  | none =>
    if (view authority).hasOwnCode then none
    else
      some (if !bumped && authority == caller then nextNonce (view authority).info.nonce
        else (view authority).info.nonce, (view authority).isAbsent)

variable {caller : Address} {chainId : U256} {bumped : Bool} {scan : AuthorizationScan}
  {journal : Journal}

theorem readAuthority_spec {authority : Address} {read : Option (Nat × Bool)}
    (reads : scan.readAuthority caller bumped authority = some (journal, read)) :
    journal.loadedWorld = scan.journal.loadedWorld ∧
      read = expectedRead caller bumped scan.journal.loadedWorld scan.simulatedAuthorities
        authority := by
  unfold readAuthority at reads
  unfold expectedRead
  cases simulated : scan.simulatedAuthorities authority with
  | some nonce =>
    rw [simulated] at reads
    cases reads
    exact ⟨rfl, rfl⟩
  | none =>
    rw [simulated] at reads
    cases inspects : scan.journal.inspectAccount authority true with
    | mk inspected found =>
      rw [inspects] at reads
      cases found with
      | none => cases reads
      | some account =>
        obtain ⟨isView, sameView⟩ := Journal.inspectAccount_spec inspects
        rw [← isView]
        dsimp only at reads
        by_cases ownCode : account.hasOwnCode = true
        · rw [if_pos ownCode] at reads ⊢
          cases reads
          exact ⟨sameView, rfl⟩
        · rw [if_neg ownCode] at reads ⊢
          cases reads
          exact ⟨sameView, rfl⟩

/-- The world of the engine is the one the scan expects: an authority none of whose authorizations
was applied is as the scan started from it, but for the nonce of a sender that was charged since,
and any other has the nonce that the scan has kept. -/
structure Mirrors (caller : Address) (bumped : Bool) (scan : AuthorizationScan) (world : World) :
    Prop where
  unseen : ∀ authority, scan.simulatedAuthorities authority = none →
    (world authority).info.code = (scan.journal.loadedWorld authority).info.code ∧
    (world authority).info.nonce =
      (if !bumped && authority == caller then
          nextNonce (scan.journal.loadedWorld authority).info.nonce
        else (scan.journal.loadedWorld authority).info.nonce) ∧
    (authority ≠ caller →
      (world authority).isAbsent = (scan.journal.loadedWorld authority).isAbsent)
  seen : ∀ authority nonce, scan.simulatedAuthorities authority = some nonce →
    (world authority).hasOwnCode = false ∧ (world authority).info.nonce = nonce ∧
    (world authority).isAbsent = false

variable {world : World}

/-- The scan reads of an authority what the engine will find. -/
theorem Mirrors.read (mirrors : Mirrors caller bumped scan world) (authority : Address) :
    (expectedRead caller bumped scan.journal.loadedWorld scan.simulatedAuthorities
        authority = none ∧ (world authority).hasOwnCode = true) ∨
      ∃ creates, expectedRead caller bumped scan.journal.loadedWorld scan.simulatedAuthorities
          authority = some ((world authority).info.nonce, creates) ∧
        (world authority).hasOwnCode = false ∧
        (authority ≠ caller → creates = (world authority).isAbsent) ∧
        (creates = true → scan.simulatedAuthorities authority = none) := by
  unfold expectedRead
  cases simulated : scan.simulatedAuthorities authority with
  | some nonce =>
    obtain ⟨noCode, sameNonce, present⟩ := mirrors.seen authority nonce simulated
    exact .inr ⟨false, by rw [sameNonce], noCode, fun _ => present.symm, nofun⟩
  | none =>
    obtain ⟨sameCode, sameNonce, sameAbsent⟩ := mirrors.unseen authority simulated
    have sameOwn : (world authority).hasOwnCode =
        (scan.journal.loadedWorld authority).hasOwnCode := by
      unfold hasOwnCode
      rw [sameCode]
    rw [sameOwn]
    cases ownCode : (scan.journal.loadedWorld authority).hasOwnCode with
    | true => exact .inl ⟨rfl, rfl⟩
    | false =>
      refine .inr ⟨(scan.journal.loadedWorld authority).isAbsent, ?_, rfl,
        fun other => (sameAbsent other).symm, fun _ => rfl⟩
      rw [sameNonce]
      rfl

/-- An authorization that the scan reported, and what the engine did with it. -/
def Corresponds (caller : Address) (applied : AppliedAuthorization) (change : AuthorityChange) :
    Prop :=
  applied.authority = change.authority ∧
    (applied.authority ≠ caller →
      (applied.createsAuthority = true ↔
        change.before.isAbsent = true ∧ change.after.isEmpty = false))

theorem isEmpty_delegated (hash : DelegationHash) (account : Account) (address : Address) :
    (account.delegated hash address).isEmpty = false := by
  have positive : nextNonce account.info.nonce ≠ 0 := by
    unfold nextNonce u64Max
    omega
  simp [isEmpty, AccountInfo.isEmpty, delegated, positive]

theorem hasOwnCode_delegated (hash : DelegationHash) (account : Account) (address : Address) :
    (account.delegated hash address).hasOwnCode = false := by
  unfold delegated hasOwnCode
  by_cases clears : address = 0
  · simp only [clears, if_true, List.isEmpty_nil, Bool.not_true]
  · simp only [clears, if_false]

theorem isAbsent_delegated (hash : DelegationHash) (account : Account) (address : Address) :
    (account.delegated hash address).isAbsent = false := by
  rw [isAbsent, isEmpty_delegated]
  rfl

variable (mirrors : Mirrors caller bumped scan world)

include mirrors

variable (sameView : journal.loadedWorld = scan.journal.loadedWorld)

include sameView

/-- A view that did not change is mirrored as before. -/
theorem Mirrors.of_view : Mirrors caller bumped { scan with journal } world := by
  refine ⟨fun authority simulated => ?_, mirrors.seen⟩
  show _ = (journal.loadedWorld authority).info.code ∧ _
  rw [sameView]
  exact mirrors.unseen authority simulated

/-- The authority of an applied authorization is mirrored by the nonce the scan keeps for it. -/
theorem Mirrors.applied (hash : DelegationHash) (authority address : Address)
    (applied : List AppliedAuthorization) :
    Mirrors caller bumped
      { journal
        simulatedAuthorities :=
          Function.update scan.simulatedAuthorities authority
            (some (nextNonce (world authority).info.nonce))
        applied }
      (world.set authority ((world authority).delegated hash address)) := by
  constructor
  · intro other simulated
    dsimp only at simulated
    have isOther : other ≠ authority := by
      rintro rfl
      rw [Function.update_self] at simulated
      cases simulated
    rw [Function.update_of_ne isOther] at simulated
    rw [set_other _ _ isOther]
    exact (mirrors.of_view sameView).unseen other simulated
  · intro other nonce simulated
    dsimp only at simulated
    by_cases isSame : other = authority
    · subst isSame
      rw [Function.update_self] at simulated
      rw [set_same]
      exact ⟨hasOwnCode_delegated .., Option.some.inj simulated, isAbsent_delegated ..⟩
    · rw [Function.update_of_ne isSame] at simulated
      rw [set_other _ _ isSame]
      exact mirrors.seen other nonce simulated

omit sameView

/-- One authorization: the scan reports it if the engine applies it, and mirrors the engine after
it. What it reports to create its authority was not reported before. -/
theorem scanAuthorization_spec (hash : DelegationHash)
    (scans : scan.scanAuthorization caller chainId bumped authorization = some next) :
    Mirrors caller bumped next (world.applyAuthorization hash chainId authorization).1 ∧
      ∃ reported, next.applied = scan.applied ++ reported ∧
        List.Forall₂ (Corresponds caller) reported
          (world.applyAuthorization hash chainId authorization).2 := by
  unfold applyAuthorization
  cases scanned_of_some scans with
  | unrecovered recovers =>
    rw [recovers]
    exact ⟨mirrors, [], (List.append_nil _).symm, .nil⟩
  | @ownCode authority _ recovers reads =>
    obtain ⟨sameView, expected⟩ := readAuthority_spec reads
    obtain ⟨_, hasCode⟩ | ⟨creates, found, _⟩ := mirrors.read authority
    · rw [recovers]
      dsimp only
      rw [if_pos hasCode]
      exact ⟨mirrors.of_view sameView, [], (List.append_nil _).symm, .nil⟩
    · cases expected.trans found
  | @otherNonce authority _ nonce _ recovers reads mismatch =>
    obtain ⟨sameView, expected⟩ := readAuthority_spec reads
    obtain ⟨unread, _⟩ | ⟨creates, found, noCode, _⟩ := mirrors.read authority
    · cases expected.trans unread
    · cases expected.trans found
      rw [recovers]
      dsimp only
      rw [if_neg (Bool.eq_false_iff.mp noCode), if_pos mismatch]
      exact ⟨mirrors.of_view sameView, [], (List.append_nil _).symm, .nil⟩
  | @applies authority _ creates recovers reads =>
    obtain ⟨sameView, expected⟩ := readAuthority_spec reads
    obtain ⟨unread, _⟩ | ⟨expectedCreates, found, noCode, absent, _⟩ := mirrors.read authority
    · cases expected.trans unread
    · have same := Option.some.inj (expected.trans found)
      obtain ⟨sameNonce, rfl⟩ := Prod.mk.inj same
      rw [recovers, sameNonce]
      dsimp only
      rw [if_neg (Bool.eq_false_iff.mp noCode), if_neg (not_not_intro rfl)]
      refine ⟨mirrors.applied sameView hash authority authorization.address _,
        [{ authority, createsAuthority := creates }], rfl, .cons ⟨rfl, fun other => ?_⟩ .nil⟩
      rw [show creates = _ from absent other]
      exact (and_iff_left (isEmpty_delegated ..)).symm

/-- The whole list. -/
theorem scanAll_spec (hash : DelegationHash) {authorizations : List Authorization}
    {final : AuthorizationScan}
    (scans : scan.scanAll caller chainId bumped authorizations = some final) :
    ∃ reported, final.applied = scan.applied ++ reported ∧
      List.Forall₂ (Corresponds caller) reported
        (world.applyEip7702AuthList hash chainId authorizations) := by
  induction authorizations generalizing scan world with
  | nil =>
    cases scans
    exact ⟨[], (List.append_nil _).symm, .nil⟩
  | cons authorization rest inductionHypothesis =>
    rw [scanAll, List.foldlM_cons, Option.bind_eq_bind, Option.bind_eq_some_iff] at scans
    obtain ⟨next, first, remaining⟩ := scans
    obtain ⟨nextMirrors, reported, extends_, corresponds⟩ :=
      scanAuthorization_spec mirrors hash first
    obtain ⟨later, laterExtends, laterCorresponds⟩ := inductionHypothesis nextMirrors remaining
    refine ⟨reported ++ later, ?_, List.rel_append corresponds laterCorresponds⟩
    rw [laterExtends, extends_, List.append_assoc]

omit mirrors

/-! ### Authorities that are created -/

/-- No authority is reported twice to be created, and the nonce of each of them is kept. -/
structure CreatesOnce (scan : AuthorizationScan) : Prop where
  nodup : (materialized scan.applied).Nodup
  kept : ∀ authority ∈ materialized scan.applied, scan.simulatedAuthorities authority ≠ none

/-- Only an authority whose nonce is not kept yet is read as absent. -/
theorem not_kept_of_readAuthority {authority : Address} {nonce : Nat}
    (reads : scan.readAuthority caller bumped authority = some (journal, some (nonce, true))) :
    scan.simulatedAuthorities authority = none := by
  have expected := (readAuthority_spec reads).2
  unfold expectedRead at expected
  cases simulated : scan.simulatedAuthorities authority with
  | none => rfl
  | some known =>
    rw [simulated] at expected
    cases expected

theorem CreatesOnce.scanAuthorization (once : scan.CreatesOnce)
    (scans : scan.scanAuthorization caller chainId bumped authorization = some next) :
    next.CreatesOnce := by
  cases scanned_of_some scans with
  | unrecovered _ => exact once
  | ownCode | otherNonce => exact ⟨once.nodup, once.kept⟩
  | @applies authority journal creates _ reads =>
    have kept : ∀ other, other = authority ∨ other ∈ materialized scan.applied →
        Function.update scan.simulatedAuthorities authority
          (some (nextNonce authorization.nonce)) other ≠ none := by
      intro other known
      by_cases isSame : other = authority
      · rw [isSame, Function.update_self]
        exact Option.some_ne_none _
      · rw [Function.update_of_ne isSame]
        exact once.kept other (known.resolve_left isSame)
    cases creates with
    | false =>
      refine ⟨?_, ?_⟩ <;> dsimp only <;> rw [materialized_concat, if_neg Bool.false_ne_true]
      · exact once.nodup
      · exact fun other member => kept other (.inr member)
    | true =>
      have fresh : authority ∉ materialized scan.applied := fun member =>
        once.kept authority member (not_kept_of_readAuthority reads)
      refine ⟨?_, ?_⟩ <;> dsimp only <;> rw [materialized_concat, if_pos rfl]
      · exact List.concat_eq_append ▸ once.nodup.concat fresh
      · intro other member
        rw [List.mem_append, List.mem_singleton] at member
        exact kept other member.symm

theorem CreatesOnce.scanAll (once : scan.CreatesOnce) {authorizations : List Authorization}
    {final : AuthorizationScan}
    (scans : scan.scanAll caller chainId bumped authorizations = some final) :
    final.CreatesOnce := by
  induction authorizations generalizing scan with
  | nil =>
    cases scans
    exact once
  | cons authorization rest inductionHypothesis =>
    rw [scanAll, List.foldlM_cons, Option.bind_eq_bind, Option.bind_eq_some_iff] at scans
    obtain ⟨next, first, remaining⟩ := scans
    exact inductionHypothesis (once.scanAuthorization first) remaining

/-- A database that answers lets the scan finish. -/
theorem scanAll_isSome (caller : Address) (chainId : U256) (bumped : Bool)
    (answers : ∀ number, scan.journal.database.failing number = false)
    (authorizations : List Authorization) :
    (scan.scanAll caller chainId bumped authorizations).isSome = true := by
  induction authorizations generalizing scan with
  | nil => rfl
  | cons authorization rest inductionHypothesis =>
    have steps : ∃ next, scan.scanAuthorization caller chainId bumped authorization = some next ∧
        next.journal.database = scan.journal.database := by
      unfold scanAuthorization
      cases authorization.recover chainId with
      | none => exact ⟨scan, rfl, rfl⟩
      | some authority =>
        have reads : ∃ journal read, scan.readAuthority caller bumped authority =
            some (journal, read) ∧ journal.database = scan.journal.database := by
          unfold readAuthority
          cases scan.simulatedAuthorities authority with
          | some nonce => exact ⟨_, _, rfl, rfl⟩
          | none =>
            obtain ⟨inspected, account, found, database⟩ :=
              Journal.inspectAccount_isSome answers authority
            rw [found]
            dsimp only
            by_cases ownCode : account.hasOwnCode = true
            · rw [if_pos ownCode]
              exact ⟨_, _, rfl, database⟩
            · rw [if_neg ownCode]
              exact ⟨_, _, rfl, database⟩
        obtain ⟨journal, read, found, database⟩ := reads
        dsimp only
        rw [found]
        rcases read with _ | ⟨nonce, creates⟩
        · exact ⟨_, rfl, database⟩
        · dsimp only
          split_ifs
          · exact ⟨_, rfl, database⟩
          · exact ⟨_, rfl, database⟩
    obtain ⟨next, stepped, database⟩ := steps
    rw [scanAll, List.foldlM_cons, Option.bind_eq_bind, stepped]
    exact inductionHypothesis (database ▸ answers)

end AuthorizationScan

/-- The accounts are those of the other world; the engine may have loaded and warmed some. -/
def World.LoadedFrom (world base : World) : Prop :=
  ∀ address, (world address).info = (base address).info ∧
    (world address).status.touched = (base address).status.touched ∧
    (world address).status.loadedAsNotExisting = (base address).status.loadedAsNotExisting

namespace AuthorizationScan

variable {world : World}

theorem isAbsent_of_loadedFrom {base : World} (loaded : world.LoadedFrom base) (address : Address) :
    (world address).isAbsent = (base address).isAbsent := by
  obtain ⟨info, touched, notExisting⟩ := loaded address
  rw [isAbsent, isAbsent, isEmpty, isEmpty,
    isLoadedAsNotExistingNotTouched, isLoadedAsNotExistingNotTouched, info, touched,
    notExisting]

/-- A scan that starts after the sender was charged mirrors the engine. -/
theorem mirrors_bumped {journal : Journal} {caller : Address}
    (loaded : world.LoadedFrom journal.loadedWorld) :
    Mirrors caller true { journal, simulatedAuthorities := fun _ => none, applied := [] }
      world := by
  refine ⟨fun authority _ => ?_, nofun⟩
  have info := (loaded authority).1
  exact ⟨congrArg AccountInfo.code info, congrArg AccountInfo.nonce info,
    fun _ => isAbsent_of_loadedFrom loaded authority⟩

/-- A scan that starts before the sender is charged mirrors the engine. -/
theorem mirrors_unbumped {journal : Journal} {caller : Address} {balance : U256}
    (loaded : world.LoadedFrom (journal.loadedWorld.deductCaller caller balance)) :
    Mirrors caller false { journal, simulatedAuthorities := fun _ => none, applied := [] }
      world := by
  refine ⟨fun authority _ => ?_, nofun⟩
  have info := (loaded authority).1
  by_cases isCaller : authority = caller
  · subst isCaller
    rw [deductCaller, set_same] at info
    have info : (world authority).info =
        { (journal.loadedWorld authority).info with
          balance, nonce := nextNonce (journal.loadedWorld authority).info.nonce } := info
    rw [info, beq_self_eq_true]
    exact ⟨rfl, rfl, fun other => absurd rfl other⟩
  · rw [deductCaller, set_other _ _ isCaller] at info
    refine ⟨congrArg AccountInfo.code info, ?_, fun _ => ?_⟩
    · rw [beq_eq_false_iff_ne.mpr isCaller]
      exact congrArg AccountInfo.nonce info
    · rw [isAbsent_of_loadedFrom loaded, deductCaller, set_other _ _ isCaller]

end AuthorizationScan

/-- The scan reports, in order, the authorizations that the engine applies once the sender is
charged, both from before that and from after it. It says of an authority other than the sender
that it is created if the authorization brings it into existence, and of no authority twice. It
returns unless the database fails. -/
theorem scan_eq_application (hash : DelegationHash) (journal : Journal) (caller : Address)
    (chainId : U256) (authorizations : List Authorization) :
    (∀ applied,
      scanAppliedEip7702Authorizations journal caller chainId authorizations false = some applied →
      ∀ (balance : U256) (world : World),
        world.LoadedFrom (journal.loadedWorld.deductCaller caller balance) →
        List.Forall₂ (AuthorizationScan.Corresponds caller) applied
          (world.applyEip7702AuthList hash chainId authorizations)) ∧
    (∀ applied,
      scanAppliedEip7702Authorizations journal caller chainId authorizations true = some applied →
      ∀ world : World, world.LoadedFrom journal.loadedWorld →
        List.Forall₂ (AuthorizationScan.Corresponds caller) applied
          (world.applyEip7702AuthList hash chainId authorizations)) ∧
    (∀ bumped applied,
      scanAppliedEip7702Authorizations journal caller chainId authorizations bumped =
        some applied →
      (materialized applied).Nodup) ∧
    ((∀ number, journal.database.failing number = false) → ∀ bumped,
      (scanAppliedEip7702Authorizations journal caller chainId authorizations bumped).isSome =
        true) := by
  refine ⟨fun applied scans balance world loaded => ?_, fun applied scans world loaded => ?_,
    fun bumped applied scans => ?_, fun answers bumped => ?_⟩
  · obtain ⟨final, scanned, rfl⟩ := Option.map_eq_some_iff.mp scans
    obtain ⟨reported, all, corresponds⟩ :=
      AuthorizationScan.scanAll_spec (AuthorizationScan.mirrors_unbumped loaded) hash scanned
    exact (all : final.applied = reported).symm ▸ corresponds
  · obtain ⟨final, scanned, rfl⟩ := Option.map_eq_some_iff.mp scans
    obtain ⟨reported, all, corresponds⟩ :=
      AuthorizationScan.scanAll_spec (AuthorizationScan.mirrors_bumped loaded) hash scanned
    exact (all : final.applied = reported).symm ▸ corresponds
  · obtain ⟨final, scanned, rfl⟩ := Option.map_eq_some_iff.mp scans
    have once : AuthorizationScan.CreatesOnce
        { journal, simulatedAuthorities := fun _ => none, applied := [] } :=
      ⟨List.nodup_nil, fun _ member => nomatch member⟩
    exact (once.scanAll scanned).nodup
  · rw [scanAppliedEip7702Authorizations, Option.isSome_map]
    exact AuthorizationScan.scanAll_isSome caller chainId bumped answers authorizations

/-- A sender with nonce seven, and no other account. -/
def senderJournal : Journal :=
  .new { Database.empty with
    basic := fun address =>
      if address = 1 then some { AccountInfo.default with balance := 1000, nonce := 7 } else none }

/-- Two authorizations of a new account, one of the sender itself, one with a nonce that does not
match, one for another chain, and one that cannot be recovered. -/
def mixedAuthorizations : List Authorization :=
  [{ chainId := 0, nonce := 0, address := 3, authority := some 5 },
    { chainId := 10, nonce := 1, address := 0, authority := some 5 },
    { chainId := 10, nonce := 8, address := 3, authority := some 1 },
    { chainId := 10, nonce := 3, address := 3, authority := some 9 },
    { chainId := 11, nonce := 0, address := 3, authority := some 9 },
    { chainId := 10, nonce := 0, address := 3, authority := none }]

/-- The scan before the sender is charged, and the one after it. -/
theorem scan_eq_application_mixed :
    (∃ applied,
      scanAppliedEip7702Authorizations senderJournal 1 10 mixedAuthorizations false =
        some applied ∧
      applied = [⟨5, true⟩, ⟨5, false⟩, ⟨1, false⟩] ∧ (materialized applied).Nodup ∧
      List.Forall₂ (AuthorizationScan.Corresponds 1) applied
        ((senderJournal.loadedWorld.deductCaller 1 900).applyEip7702AuthList (fun _ => 1) 10
          mixedAuthorizations)) ∧
    (∃ applied,
      scanAppliedEip7702Authorizations senderJournal 1 10 mixedAuthorizations true =
        some applied ∧
      applied = [⟨5, true⟩, ⟨5, false⟩] ∧
      List.Forall₂ (AuthorizationScan.Corresponds 1) applied
        (senderJournal.loadedWorld.applyEip7702AuthList (fun _ => 1) 10 mixedAuthorizations)) ∧
    (scanAppliedEip7702Authorizations senderJournal 1 10 mixedAuthorizations false).isSome =
      true := by
  obtain ⟨before, after, once, returns⟩ :=
    scan_eq_application (fun _ => 1) senderJournal 1 10 mixedAuthorizations
  exact ⟨⟨_, rfl, rfl, once false _ rfl, before _ rfl 900 _ fun _ => ⟨rfl, rfl, rfl⟩⟩,
    ⟨_, rfl, rfl, after _ rfl _ fun _ => ⟨rfl, rfl, rfl⟩⟩, returns (fun _ => rfl) false⟩

end MegaEvm
