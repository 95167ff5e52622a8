import TagAudit.Host.Machine
import TagAudit.Proofs.Container.Identifier
import TagAudit.Proofs.Inspection.Stages
import TagAudit.Proofs.Inspection.Writing

/-!
# Inspections one after the other

An inspector may be used for one container after another. It keeps a ledger and a decoder, and its
store keeps the tables. None of that shows in a later report. There is a report as long as what the
fetcher raises can be told in one.

* `Asked`, `watched`: the calls of a fetcher, noted next to the world that it works on.
* `FetchFailure.IsTold`: the failures that can be told in a report.
* `Report.untimed`, `Reported`: what comes of an inspection but for its times, by the identifier and
  by what fetching came to.
* `inspectNext_reported`: that comes of every inspection, whatever was inspected before.
* `asked_inspectNext`: the fetcher is called for names of containers only, and once.
* `Visit`, `visits`: inspections one after the other; `visits_independent` is about all of them.
* `visit_refused`: a failure to fetch of which there is no report.
-/

namespace TagAudit

/-- A report without its times. -/
def Report.untimed (r : Report) : Report := { r with startedAt := default, elapsed := 0 }

/-- A failure to fetch that a report can tell of: it has words, and a status that it names is shown
and counts as a number or as none. -/
def FetchFailure.IsTold : FetchFailure → Prop
  | .status code words => (∃ shown, code.shown = .ok shown) ∧ (∃ text, words = .ok text) ∧
      ∃ number, code.number = .ok number
  | .transport words => ∃ text, words = .ok text
  | .raised r => ∃ fault, r.told = .ok fault

namespace Inspection

open Container (IsName isIdentifier isIdentifier_strip_iff)
open Inspector (Kept)
open Outcome

/-! ## Stores in memory -/

/-- The fault of the first table of records that cannot be made. -/
def Subject.unmade? (s : Subject) : Option Fault :=
  (recordTables s.container s.model s.vendors).findSome? fault?

section

variable {ω : Type}

/-- Tables fail in a store in memory only where they cannot be made. -/
theorem Writes.fault_eq {tables : List (Except Fault Table)} {state state' : MemoryStore × ω}
    {raised : Option Raised}
    (h : Writes (MemoryStore.writer (StateM ω)) tables state raised state')
    (hshown : ∀ t ∈ writable tables, IsShown t) :
    toldOf raised = .ok (tables.findSome? fault?) := by
  induction h with
  | done => rfl
  | unmade => rfl
  | @refused t rest sink sink' world world' raised hcall =>
    obtain ⟨cells, hcells⟩ := hshown t List.mem_cons_self
    have hwrite : (sink.write t).1.mapError Raised.fault = .error raised := congrArg (·.1.1) hcall
    rw [MemoryStore.write, hcells] at hwrite
    cases hwrite
  | written _ _ ih => exact ih fun t ht => hshown t (List.mem_cons_of_mem _ ht)

variable [Host (StateM ω)] {i : Inspector (StateM ω) MemoryStore} {s : Subject}

/-- With a store in memory, the faults of writing are those of making the tables. -/
theorem Writing.faults_eq (hw : i.writer = MemoryStore.writer (StateM ω)) {store : MemoryStore}
    {world : ω} {faults : Except Raised (Option Fault × Option Fault)}
    {state' : Option MemoryStore × ω} (h : Writing i s (some store, world) faults state') :
    faults = .ok (s.unmade?, none) ∧ ∃ after, state'.1 = some after := by
  have hrecords := (writable_recordTables s.container s.model s.vendors).2
  cases h with
  | untold htables huntold =>
    rw [hw] at htables
    rw [htables.fault_eq hrecords] at huntold
    cases huntold
  | tables _ htables htold =>
    rw [hw] at htables
    rw [htables.fault_eq hrecords] at htold
    cases htold
    exact ⟨rfl, _, rfl⟩
  | debug _ htables htold _ hdebug =>
    rw [hw] at htables hdebug
    rw [htables.fault_eq hrecords] at htold
    cases htold
    refine ⟨?_, _, rfl⟩
    rw [hdebug.fault_eq fun t ht => ?_]
    · rfl
    · rw [List.mem_singleton.mp ht]
      exact isShown_ofRows _ _ _

end

/-! ## Reports -/

/-- A source as a new inspector reads it. -/
def subjectOf (settings : Settings) (container source : Text) : Subject :=
  ⟨settings.locator, Container.decoderName, container, source⟩

/-- A failure to fetch has a reason if it can be told. -/
theorem exists_reasonOf_iff (failure : FetchFailure) :
    (∃ reason, Inspector.reasonOf failure = .ok reason) ↔ failure.IsTold := by
  cases failure with
  | status code words =>
    obtain ⟨shown, number⟩ := code
    cases shown with
    | error => exact iff_of_false (fun ⟨_, h⟩ => nomatch h) fun ⟨⟨_, h⟩, _⟩ => nomatch h
    | ok =>
      cases words with
      | error => exact iff_of_false (fun ⟨_, h⟩ => nomatch h) fun ⟨_, ⟨_, h⟩, _⟩ => nomatch h
      | ok =>
        cases number with
        | error => exact iff_of_false (fun ⟨_, h⟩ => nomatch h) fun ⟨_, _, _, h⟩ => nomatch h
        | ok => exact iff_of_true ⟨_, rfl⟩ ⟨⟨_, rfl⟩, ⟨_, rfl⟩, _, rfl⟩
  | transport words =>
    cases words with
    | error => exact iff_of_false (fun ⟨_, h⟩ => nomatch h) fun ⟨_, h⟩ => nomatch h
    | ok => exact iff_of_true ⟨_, rfl⟩ ⟨_, rfl⟩
  | raised raised =>
    cases raised with
    | fault => exact iff_of_true ⟨_, rfl⟩ ⟨_, rfl⟩
    | wordless => exact iff_of_false (fun ⟨_, h⟩ => nomatch h) fun ⟨_, h⟩ => nomatch h

/-- What comes of an inspection, by what fetching came to; nothing was fetched for an identifier
that is none. -/
inductive Reported (settings : Settings) (container : Text) :
    Option (Except FetchFailure Text) → Except Uncaught Report → Prop where
  | notIdentified {startedAt : Moment} {elapsed : Nat} : Reported settings container none
    (.ok { container, startedAt, elapsed, status := .invalidContainer
           error := some ("Container id must look like GTM-XXXXXXX" : Text) })
  | notFetched {failure : FetchFailure} {reason : Option Int × Text} {startedAt : Moment}
    {elapsed : Nat} : Inspector.reasonOf failure = .ok reason →
    Reported settings container (some (.error failure))
      (.ok { container, startedAt, elapsed, status := .fetchFailed, statusCode := reason.1
             error := some reason.2 })
  | untold {failure : FetchFailure} {uncaught : Uncaught} :
    Inspector.reasonOf failure = .error uncaught →
    Reported settings container (some (.error failure)) (.error uncaught)
  | inspected {source : Text} {report : Report} : Accounts (subjectOf settings container source)
      ((subjectOf settings container source).faults
        (subjectOf settings container source).unmade? none) report →
    Reported settings container (some (.ok source)) (.ok report)

theorem Accounts.untimed_eq {s : Subject} {faults : Stage → Option Fault} {r r' : Report}
    (h : Accounts s faults r) (h' : Accounts s faults r') : r.untimed = r'.untimed := by
  have hmodel : r.model = r'.model := h.model.trans h'.model.symm
  have hvendors : r.vendors = r'.vendors := h.vendors.trans h'.vendors.symm
  unfold Report.untimed
  rw [h.container, h.status, h.strategy, h.tagCount, h.triggerCount, h.variableCount,
    h.vendorCount, h.issueCount, h.sourceLength, h.statusCode, h.error, hmodel, hvendors,
    h'.container, h'.status, h'.strategy, h'.tagCount, h'.triggerCount, h'.variableCount,
    h'.vendorCount, h'.issueCount, h'.sourceLength, h'.statusCode, h'.error]

/-- **One outcome** for what was fetched, but for the times of a report. -/
theorem Reported.untimed_eq {settings : Settings} {container : Text}
    {answer : Option (Except FetchFailure Text)} {outcome outcome' : Except Uncaught Report}
    (h : Reported settings container answer outcome)
    (h' : Reported settings container answer outcome') :
    outcome.map Report.untimed = outcome'.map Report.untimed := by
  cases h with
  | notIdentified => cases h' with | notIdentified => rfl
  | notFetched hreason =>
    cases h' with
    | notFetched hreason' =>
      rw [hreason] at hreason'
      cases hreason'
      rfl
    | untold huntold =>
      rw [hreason] at huntold
      cases huntold
  | untold huntold =>
    cases h' with
    | notFetched hreason =>
      rw [hreason] at huntold
      cases huntold
    | untold huntold' =>
      rw [huntold] at huntold'
      cases huntold'
      rfl
  | inspected h => cases h' with | inspected h' => exact congrArg Except.ok (h.untimed_eq h')

section

variable {ω : Type} [Host (StateM ω)] (i : Inspector (StateM ω) MemoryStore)

/-- What fetching comes to; nothing is fetched for an identifier that is none. -/
def answer? (container : Text) (world : ω) : Option (Except FetchFailure Text) :=
  if isIdentifier container.strip then
    some (i.fetcher container.strip ((Host.ticks : StateM ω Nat) world).2).1
  else none

/-- **An inspection** comes to what fetching comes to, whatever was inspected before, and leaves the
store as it was if nothing is fetched. -/
theorem inspectNext_reported (hw : i.writer = MemoryStore.writer (StateM ω)) (kept : Kept)
    (hname : kept.decoder.name = Container.decoderName) (store : MemoryStore) (container : Text)
    (world : ω) : ∃ outcome kept' after world',
      i.inspectNext kept (some store) container world = ((outcome, kept', some after), world') ∧
      kept'.decoder.name = Container.decoderName ∧
      Reported i.settings container.strip (answer? i container world) outcome ∧
      ((∀ source, answer? i container world ≠ some (.ok source)) → after = store) := by
  unfold Inspector.inspectNext answer?
  rw [run_bind]
  cases hticks : (Host.ticks : StateM ω Nat) world with
  | mk started next =>
    dsimp only
    split
    case isFalse hinvalid =>
      exact ⟨_, kept.renewed, store, _, rfl, hname, .notIdentified, fun _ => rfl⟩
    case isTrue hvalid =>
      rw [run_bind]
      cases hfetch : i.fetcher container.strip next with
      | mk answer fetched =>
        cases answer with
        | error failure =>
          dsimp only
          cases hreason : Inspector.reasonOf failure with
          | error uncaught =>
            exact ⟨_, kept.renewed, store, _, rfl, hname, .untold hreason, fun _ => rfl⟩
          | ok reason =>
            exact ⟨_, kept.renewed, store, _, rfl, hname, .notFetched hreason, fun _ => rfl⟩
        | ok source =>
          obtain ⟨outcome, kept', sink', world', faults, written, hrun, hdecoder, hwriting,
            haccounted⟩ := process_accounts i kept.renewed (some store) container.strip source
              started fetched rfl
          obtain ⟨rfl, after, rfl⟩ := hwriting.faults_eq hw
          rw [show kept.renewed.decoder.name = Container.decoderName from hname]
            at hdecoder haccounted
          cases haccounted with
          | report haccounts =>
            exact ⟨_, _, after, world', hrun, hdecoder, .inspected haccounts,
              fun h => absurd rfl (h source)⟩

end

/-! ## Watched fetchers -/

/-- An inspector that writes into a store in memory. -/
def inMemory {m : Type → Type} [Monad m] (settings : Settings) (fetcher : Fetcher m) :
    Inspector m MemoryStore where
  settings := settings
  fetcher := fetcher
  writer := MemoryStore.writer m

/-- A call of a fetcher, and what came of it. -/
structure Asked where
  container : Text
  answer : Except FetchFailure Text

section

variable {ω α β : Type}

/-- A step on a world, next to which calls are noted. -/
def beside (x : StateM ω α) : StateM (List Asked × ω) α := fun state =>
  let (a, world) := x state.2
  (a, state.1, world)

instance [Host (StateM ω)] : Host (StateM (List Asked × ω)) where
  holds p := beside (Host.holds p)
  holdsDirectory p := beside (Host.holdsDirectory p)
  read p := beside (Host.read p)
  makeDirectory p := beside (Host.makeDirectory p)
  write p content := beside (Host.write p content)
  now := beside Host.now
  ticks := beside Host.ticks

/-- A fetcher whose calls are noted. -/
def watched (fetcher : Fetcher (StateM ω)) : Fetcher (StateM (List Asked × ω)) :=
  fun container state =>
    let (answer, world) := fetcher container state.2
    (answer, state.1 ++ [⟨container, answer⟩], world)

/-- A computation that calls no fetcher. -/
def CallsNone (x : StateM (List Asked × ω) α) : Prop := ∀ state, (x state).2.1 = state.1

theorem callsNone_pure (a : α) : CallsNone (pure a : StateM (List Asked × ω) α) := fun _ => rfl

theorem callsNone_beside (x : StateM ω α) : CallsNone (beside x) := fun _ => rfl

theorem CallsNone.bind {x : StateM (List Asked × ω) α} {f : α → StateM (List Asked × ω) β}
    (hx : CallsNone x) (hf : ∀ a, CallsNone (f a)) : CallsNone (x >>= f) := by
  intro state
  rw [run_bind, hf, hx]

theorem callsNone_writeAll (tables : List (Except Fault Table)) (store : MemoryStore) :
    CallsNone (writeAll (MemoryStore.writer (StateM (List Asked × ω))) store tables) := by
  induction tables generalizing store with
  | nil => exact callsNone_pure _
  | cons table rest ih =>
    cases table with
    | error fault => exact callsNone_pure _
    | ok t =>
      refine CallsNone.bind (callsNone_pure (store.write t)) fun out => ?_
      split
      · exact ih _
      · exact callsNone_pure _

variable [Host (StateM ω)] (settings : Settings) (fetcher : Fetcher (StateM ω))

theorem callsNone_writeTables (container source : Text) (model : Model)
    (vendors : List VendorHit) (sink : Option MemoryStore) (ledger : Ledger) :
    CallsNone ((inMemory settings (watched fetcher)).writeTables container source model vendors sink
      ledger) := by
  cases sink with
  | none => exact callsNone_pure _
  | some store =>
    refine (callsNone_writeAll _ store).bind fun out => ?_
    dsimp only
    split
    · refine CallsNone.bind ?_ fun _ => callsNone_pure _
      unfold Inspector.writeDebug
      split
      · refine (callsNone_beside Host.now).bind fun now => ?_
        exact CallsNone.bind (callsNone_pure _) fun _ => callsNone_pure _
      · exact callsNone_pure _
    · exact callsNone_pure _

/-- What is put into a report at the end: the time, and how long it took. -/
theorem callsNone_timed (started : Nat) (f : Moment → Nat → α) :
    CallsNone (do return f (← Host.now) (← Inspector.elapsedSince started) :
      StateM (List Asked × ω) α) := by
  refine (callsNone_beside Host.now).bind fun now => ?_
  refine CallsNone.bind ?_ fun _ => callsNone_pure _
  exact (callsNone_beside Host.ticks).bind fun _ => callsNone_pure _

/-- Nothing is fetched once there is a source. -/
theorem callsNone_process (kept : Kept) (sink : Option MemoryStore) (container source : Text)
    (started : Nat) : CallsNone
      ((inMemory settings (watched fetcher)).process kept sink container source started) := by
  refine (callsNone_writeTables settings fetcher _ _ _ _ sink _).bind fun out => ?_
  obtain ⟨⟨told, ledger⟩, sink⟩ := out
  cases told with
  | error => exact callsNone_pure _
  | ok => exact (callsNone_timed started _).bind fun _ => callsNone_pure _

/-- **The calls** of an inspection: one for the identifier without its blanks, if that is one. -/
theorem asked_inspectNext (kept : Kept) (sink : Option MemoryStore) (container : Text)
    (state : List Asked × ω) :
    ((inMemory settings (watched fetcher)).inspectNext kept sink container state).2.1 =
      state.1 ++ ((answer? (inMemory settings (watched fetcher)) container state).map
        (Asked.mk container.strip)).toList := by
  have hticks : ((Host.ticks : StateM (List Asked × ω) Nat) state).2.1 = state.1 := rfl
  unfold Inspector.inspectNext answer?
  rw [run_bind]
  generalize (Host.ticks : StateM (List Asked × ω) Nat) state = ticks at hticks
  split
  case isFalse =>
    have hcalls : CallsNone
        (Inspector.notIdentified container.strip ticks.1 : StateM (List Asked × ω) Report) :=
      callsNone_timed ticks.1 _
    have hended : CallsNone (do
        return (.ok (← Inspector.notIdentified container.strip ticks.1), kept.renewed, sink) :
          StateM (List Asked × ω) (Except Uncaught Report × Kept × Option MemoryStore)) :=
      hcalls.bind fun _ => callsNone_pure _
    rw [hended, hticks]
    exact (List.append_nil _).symm
  case isTrue =>
    rw [run_bind]
    cases hfetch : fetcher container.strip ticks.2.2 with
    | mk answer world =>
      have hwatched : (inMemory settings (watched fetcher)).fetcher container.strip ticks.2 =
          (answer, ticks.2.1 ++ [⟨container.strip, answer⟩], world) := by
        change watched fetcher container.strip ticks.2 = _
        rw [watched, hfetch]
      rw [hwatched, ← hticks]
      cases answer with
      | error failure =>
        dsimp only
        cases Inspector.reasonOf failure with
        | error uncaught => rfl
        | ok reason =>
          have hcalls : CallsNone (Inspector.notFetched container.strip reason ticks.1 :
              StateM (List Asked × ω) Report) :=
            callsNone_timed ticks.1 _
          exact (hcalls.bind fun _ => callsNone_pure _) _
      | ok source =>
        exact callsNone_process settings fetcher kept.renewed sink container.strip source ticks.1 _

end

/-! ## Visits -/

/-- What an inspector works on: what it keeps, its store and the world. -/
structure Situation (ω : Type) where
  kept : Kept
  sink : Option MemoryStore
  world : ω

/-- One inspection: the identifier, the calls of the fetcher, what came of it, and the situations
before and after. -/
structure Visit (ω : Type) where
  container : Text
  asked : List Asked
  outcome : Except Uncaught Report
  before : Situation ω
  after : Situation ω

section

variable {ω : Type} [Host (StateM ω)] (settings : Settings) (fetcher : Fetcher (StateM ω))

/-- One inspection in a situation. -/
def visit (before : Situation ω) (container : Text) : Visit ω :=
  let ((outcome, kept, sink), asked, world) := (inMemory settings (watched fetcher)).inspectNext
    before.kept before.sink container ([], before.world)
  { container, asked, outcome, before, after := { kept, sink, world } }

/-- Inspections one after the other, each in the situation that the one before it left. -/
def visits (before : Situation ω) : List Text → List (Visit ω)
  | [] => []
  | container :: rest =>
    visit settings fetcher before container ::
      visits (visit settings fetcher before container).after rest

/-- What comes of inspecting with an inspector that was not used before, with a fetcher that has one
answer. -/
def freshOutcome (answer : Except FetchFailure Text) (store : MemoryStore) (container : Text)
    (world : ω) : Except Uncaught Report :=
  ((inMemory settings fun _ => (pure answer : StateM ω _)).inspect (some store) container world).1.1

variable {settings fetcher}

/-- What holds of every inspection, whatever was inspected before it. -/
structure Visit.Independent {ω : Type} (settings : Settings) (v : Visit ω) : Prop where
  /-- The fetcher is called at most once, for the identifier without its blanks, and only if that is
  the name of a container. -/
  asked : v.asked = [] ∧ ¬IsName v.container.strip ∨
    IsName v.container.strip ∧ ∃ answer, v.asked = [⟨v.container.strip, answer⟩]
  /-- There is a report unless a failure to fetch cannot be told in one. -/
  reported : (∃ report, v.outcome = .ok report) ↔
    ∀ call ∈ v.asked, ∀ failure, call.answer = .error failure → failure.IsTold
  /-- Where nothing is fetched, the store stays as it was and a report counts nothing. -/
  unfetched : (∀ call ∈ v.asked, ∃ failure, call.answer = .error failure) →
    v.after.sink = v.before.sink ∧ ∀ report, v.outcome = .ok report →
      (∀ count ∈ report.counts, count.2 = 0) ∧ report.issueCount = 0
  /-- A new inspector whose fetcher has the same answer comes to the same, but for the times of a
  report. -/
  fresh {ω' : Type} [Host (StateM ω')] (answer : Except FetchFailure Text) (store : MemoryStore)
    (world : ω') : (∀ call ∈ v.asked, call.answer = answer) →
    v.outcome.map Report.untimed =
      (freshOutcome settings answer store v.container world).map Report.untimed

/-- A situation in which an inspector that was new at first is used again. -/
def Situation.IsUsual (situation : Situation ω) : Prop :=
  situation.kept.decoder.name = Container.decoderName ∧ ∃ store, situation.sink = some store

/-- What comes of inspecting with a new inspector. -/
theorem freshOutcome_reported (answer : Except FetchFailure Text) (store : MemoryStore)
    (container : Text) (world : ω) :
    Reported settings container.strip (if isIdentifier container.strip then some answer else none)
      (freshOutcome settings answer store container world) := by
  obtain ⟨outcome, kept', after, world', hrun, -, hreported, -⟩ :=
    inspectNext_reported (inMemory settings fun _ => (pure answer : StateM ω _)) rfl {} rfl store
      container world
  have hfresh : freshOutcome settings answer store container world = outcome := by
    unfold freshOutcome Inspector.inspect
    rw [run_bind, hrun]
    rfl
  rw [hfresh]
  exact hreported

/-- There is a report unless fetching failed for what cannot be told. -/
theorem Reported.exists_report_iff {container : Text} {answer : Option (Except FetchFailure Text)}
    {outcome : Except Uncaught Report} (h : Reported settings container answer outcome) :
    (∃ report, outcome = .ok report) ↔
      ∀ failure, answer = some (.error failure) → failure.IsTold := by
  cases h with
  | notIdentified => simp
  | @notFetched failure reason _ _ hreason =>
    have htold : failure.IsTold := (exists_reasonOf_iff failure).mp ⟨reason, hreason⟩
    simpa using htold
  | @untold failure uncaught huntold =>
    have hwordless : ¬failure.IsTold := by
      rw [← exists_reasonOf_iff, huntold]
      nofun
    simpa using hwordless
  | inspected => simp

/-- Nothing is counted where nothing was fetched. -/
theorem Reported.counts_eq_zero {container : Text} {answer : Option (Except FetchFailure Text)}
    {report : Report} (h : Reported settings container answer (.ok report))
    (hanswer : ∀ source, answer ≠ some (.ok source)) :
    (∀ count ∈ report.counts, count.2 = 0) ∧ report.issueCount = 0 := by
  cases h with
  | notIdentified => simp [Report.counts]
  | notFetched => simp [Report.counts]
  | inspected => exact absurd rfl (hanswer _)

/-- **One inspection**, whatever was inspected before it. -/
theorem visit_independent {before : Situation ω} (hbefore : before.IsUsual) (container : Text) :
    (visit settings fetcher before container).Independent settings ∧
      (visit settings fetcher before container).after.IsUsual := by
  obtain ⟨kept, sink, world⟩ := before
  obtain ⟨hname, store, rfl⟩ := hbefore
  let i := inMemory settings (watched fetcher)
  obtain ⟨outcome, kept', after, world', hrun, hname', hreported, hstore⟩ :=
    inspectNext_reported i rfl kept hname store container ([], world)
  have hasked := asked_inspectNext settings fetcher kept (some store) container ([], world)
  have hvisit : visit settings fetcher ⟨kept, some store, world⟩ container =
      { container, asked := world'.1, outcome, before := ⟨kept, some store, world⟩
        after := ⟨kept', some after, world'.2⟩ } := by
    unfold visit
    rw [hrun]
  rw [hrun, List.nil_append] at hasked
  rw [hvisit]
  refine ⟨⟨?_, ?_, ?_, ?_⟩, hname', after, rfl⟩
  · -- The fetcher is called if the identifier is a name.
    dsimp only
    rw [hasked, ← isIdentifier_strip_iff]
    unfold answer?
    split
    case isTrue hid => exact .inr ⟨hid, _, rfl⟩
    case isFalse hid => exact .inl ⟨rfl, hid⟩
  · refine hreported.exists_report_iff.trans ?_
    dsimp only
    rw [hasked]
    cases answer? i container ([], world) <;> simp
  · intro hfailed
    have hnone : ∀ source, answer? i container ([], world) ≠ some (.ok source) := by
      intro source hsource
      rw [hsource] at hasked
      obtain ⟨failure, hfailure⟩ := hfailed ⟨container.strip, .ok source⟩ (by
        dsimp only
        rw [hasked]
        exact List.mem_singleton_self _)
      cases hfailure
    refine ⟨congrArg some (hstore hnone), fun report hreport => ?_⟩
    obtain rfl : outcome = .ok report := hreport
    exact hreported.counts_eq_zero hnone
  · intro ω' _ answer store' other hanswers
    have hanswer : answer? i container ([], world) =
        if isIdentifier container.strip then some answer else none := by
      unfold answer? at hasked ⊢
      split
      case isTrue hid =>
        rw [if_pos hid] at hasked
        have hcall := hanswers ⟨container.strip, _⟩ (by
          dsimp only
          rw [hasked]
          exact List.mem_singleton_self _)
        exact congrArg some hcall
      case isFalse => rfl
    rw [hanswer] at hreported
    exact hreported.untimed_eq (freshOutcome_reported answer store' container other)

theorem independent_of_mem {before : Situation ω} (hbefore : before.IsUsual)
    {containers : List Text} {v : Visit ω} (hv : v ∈ visits settings fetcher before containers) :
    v.Independent settings := by
  induction containers generalizing before with
  | nil => cases hv
  | cons container containers ih =>
    obtain ⟨hfirst, hafter⟩ :
        (visit settings fetcher before container).Independent settings ∧ _ :=
      visit_independent hbefore container
    rcases List.mem_cons.mp hv with rfl | hv
    · exact hfirst
    · exact ih hafter hv

theorem map_container_visits (before : Situation ω) (containers : List Text) :
    (visits settings fetcher before containers).map (·.container) = containers := by
  induction containers generalizing before with
  | nil => rfl
  | cons container containers ih => exact congrArg (container :: ·) (ih _)

/-- **Inspections one after the other**, with any fetcher, any identifiers and any store to begin
with: each calls the fetcher at most once and only for the name of a container, has a report unless
fetching failed for what cannot be told in one, leaves the store alone and counts nothing if nothing
is fetched, and comes to what a new inspector comes to for the same answer. -/
theorem visits_independent {ω : Type} [Host (StateM ω)] (settings : Settings)
    (fetcher : Fetcher (StateM ω)) (store : MemoryStore) (world : ω) (containers : List Text) :
    let all := visits settings fetcher ⟨{}, some store, world⟩ containers
    all.map (·.container) = containers ∧ ∀ v ∈ all, v.Independent settings :=
  ⟨map_container_visits _ containers, fun _ hv => independent_of_mem ⟨rfl, store, rfl⟩ hv⟩

end

/-! ## Failures of which there is no report -/

/-- A new inspector on a machine in memory. -/
def newSituation : Situation Machine := ⟨{}, some {}, default⟩

/-- A fetcher that fails with a status, which need not be a number. -/
def refusing (code : Data) : Fetcher InMemory :=
  fun container => return .error (.ofStatus container code)

/-- A status that is no number is shown in the log, but refused by the report. -/
theorem visit_refused : (visit {} (refusing (.text "abc")) newSituation "GTM-A1").outcome =
    .error (.refused [⟨["status_code"], .intParsing⟩]) := by
  rfl

/-- What cannot be put in words is not told in a report. -/
example : (visit {} (fun _ => return .error (.raised (.wordless .value (.fault .longInteger))))
    newSituation "GTM-A1").outcome = .error (.raised (.fault .longInteger)) := by
  rfl

end Inspection

end TagAudit
