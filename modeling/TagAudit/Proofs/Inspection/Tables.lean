import Mathlib.Data.List.Induction
import TagAudit.Host.Machine
import TagAudit.Proofs.Container.Decoding
import TagAudit.Proofs.Inspection.LongNumbers
import TagAudit.Proofs.Inspection.Writing

/-!
# Tables of one call

Calls on one inspector write into one store. A call that writes all its tables leaves nothing of the
calls before it; a call that is cut off leaves the rest of their tables next to its own.

* `Call.written`, `Call.content`: what a call puts into a store.
* `inspectSource_stores`, `inspectAll_stores`: what one call leaves there, and what a run of calls.
* `Uncut`, `OfOneCall`: runs in which no call falls behind an earlier one, and stores whose tables
  are those of one call.
* `lastContent_of_cut`: a call that falls behind does leave a mixture.
* `inspectAll_ofOneCall`: every table is that of the last call that wrote it, and all are of one
  call if none falls behind.
* `inspectAll_mixed`: two calls, of which the second finds an integer that is too long.
-/

namespace TagAudit.Inspection

open Outcome

/-! ## One call -/

/-- A call on a source that is there already. -/
structure Call where
  container : Text
  source : Text

namespace Call

variable (settings : Settings) (call : Call)

/-- What a call finds in its source, with the ledger afterwards. -/
def decoded : Model × Ledger :=
  let container := call.container.strip
  Inspector.decodeStage container (Source.locate settings.locator call.source container)
    { component := Inspector.name }

/-- The vendor identifiers of a call. -/
def vendors : List VendorHit :=
  (Inspector.scanStage call.source (call.decoded settings).1.tags (call.decoded settings).2).1

/-- The tables of records that a call writes. -/
def written : List Table :=
  writable (recordTables call.container.strip (call.decoded settings).1 (call.vendors settings))

/-- What a call puts under a name in a store. -/
def content (name : Text) : Option Sheet := contentOf (call.written settings) name

theorem written_named :
    (call.written settings).map (·.name) = recordNames.take (call.written settings).length ∧
      ∀ t ∈ call.written settings, IsShown t :=
  writable_recordTables _ _ _

theorem isSome_content {name : Text} :
    (call.content settings name).isSome = true ↔
      name ∈ recordNames.take (call.written settings).length := by
  obtain ⟨hnames, hshown⟩ := call.written_named settings
  rw [← hnames]
  exact isSome_contentOf hshown

theorem reaches_written : Reaches (call.decoded settings).1 (call.written settings).length :=
  reaches_length _ _ _

theorem length_written_le : (call.written settings).length ≤ 4 := by
  have hreaches := call.reaches_written settings
  generalize (call.written settings).length = n at hreaches ⊢
  cases hreaches <;> decide

variable {settings call} in
/-- A call that finds nothing writes all tables. -/
theorem length_written_of_isEmpty (hempty : (call.decoded settings).1.isEmpty = true) :
    (call.written settings).length = 4 := by
  have hreaches := call.reaches_written settings
  simp only [Model.isEmpty, Bool.and_eq_true, List.isEmpty_iff] at hempty
  obtain ⟨⟨htags, htriggers⟩, hvars⟩ := hempty
  generalize (call.written settings).length = n at hreaches ⊢
  cases hreaches with
  | nothing htag _ => simp [htags] at htag
  | tags _ htrigger _ => simp [htriggers] at htrigger
  | triggers _ _ hv _ => simp [hvars] at hv
  | all => rfl

end Call

section

variable {m : Type → Type} [Monad m] [LawfulMonad m] [Host m] {i : Inspector m MemoryStore}

/-- The table of diagnostics is none of the tables of records. -/
theorem writeDebug_keeps (hw : i.writer = MemoryStore.writer m) (container source : Text)
    (store : MemoryStore) (ledger : Ledger) :
    Returns (fun out => ∀ name ∈ recordNames, out.2.tables.get? name = store.tables.get? name)
      (i.writeDebug container source store ledger) := by
  unfold Inspector.writeDebug
  split
  · refine (returns_any Host.now).bind fun now _ => ?_
    rw [hw, MemoryStore.writer, pure_bind]
    let table := debugTable (Diagnostics.of source container now)
    have hshown : IsShown table := isShown_ofRows _ _ _
    refine returns_pure fun name hname => ?_
    have hne : name ≠ table.name := by
      rintro rfl
      revert hname
      change ¬("GTM_Debug" : Text) ∈ recordNames
      decide
    exact (get?_write hshown store name).trans (if_neg hne)
  · exact returns_pure fun _ _ => rfl

theorem writeTables_stores (hw : i.writer = MemoryStore.writer m) (container source : Text)
    (model : Model) (vendors : List VendorHit) (store : MemoryStore) (ledger : Ledger) :
    Returns (fun out => ∃ after, out.2 = some after ∧ ∀ name ∈ recordNames,
        after.tables.get? name =
          (contentOf (writable (recordTables container model vendors)) name).or
            (store.tables.get? name))
      (i.writeTables container source model vendors (some store) ledger) := by
  obtain ⟨hnames, hshown⟩ := writable_recordTables container model vendors
  have hnodup : ((writable (recordTables container model vendors)).map (·.name)).Nodup := by
    rw [hnames]
    exact (show recordNames.Nodup by decide).sublist (List.take_sublist _ _)
  obtain ⟨outcome, hwrite⟩ := writeAll_writer (m := m) _ hshown store
  unfold Inspector.writeTables
  simp only [hw, hwrite, pure_bind]
  split
  · refine (writeDebug_keeps hw container source _ _).bind fun out hout => ?_
    refine returns_pure ⟨_, rfl, fun name hname => ?_⟩
    rw [hout name hname, get?_storeAll hnodup hshown]
  · refine returns_pure ⟨_, rfl, fun name hname => ?_⟩
    rw [get?_storeAll hnodup hshown]

/-- **One call** leaves in a store the tables that it writes, and else what was there. -/
theorem inspectSource_stores (hw : i.writer = MemoryStore.writer m) (store : MemoryStore)
    (call : Call) :
    Returns (fun out => ∃ after, out.2 = some after ∧ ∀ name ∈ recordNames,
        after.tables.get? name = (call.content i.settings name).or (store.tables.get? name))
      (i.inspectSource (some store) call.container call.source) := by
  unfold Inspector.inspectSource Inspector.inspectSourceNext Inspector.process
  simp only [bind_assoc]
  refine (returns_any Host.ticks).bind fun started _ => ?_
  refine (writeTables_stores hw _ _ _ _ store _).bind fun out hout => ?_
  obtain ⟨⟨told, ledger⟩, sink⟩ := out
  cases told with
  | error =>
    simp only [pure_bind]
    exact returns_pure hout
  | ok =>
    simp only [bind_assoc, pure_bind]
    exact (returns_any _).bind fun _ _ => returns_pure hout

/-! ## Calls one after the other -/

/-- Calls on one inspector, one after the other. -/
def inspectAll {m : Type → Type} [Monad m] [Host m] {σ : Type} (i : Inspector m σ)
    (sink : Option σ) (calls : List Call) : m (Option σ) :=
  calls.foldlM (fun sink call => return (← i.inspectSource sink call.container call.source).2) sink

/-- What calls leave under a name: what the last of them put there. -/
def lastContent (settings : Settings) (calls : List Call) (name : Text) : Option Sheet :=
  calls.reverse.findSome? fun call => call.content settings name

/-- **Calls** leave under every name what the last call put there that wrote the table. -/
theorem inspectAll_stores (hw : i.writer = MemoryStore.writer m) (store : MemoryStore)
    (calls : List Call) :
    Returns (fun sink => ∃ after, sink = some after ∧ ∀ name ∈ recordNames,
        after.tables.get? name =
          (lastContent i.settings calls name).or (store.tables.get? name))
      (inspectAll i (some store) calls) := by
  induction calls generalizing store with
  | nil => exact returns_pure ⟨store, rfl, fun _ _ => rfl⟩
  | cons call calls ih =>
    unfold inspectAll at ih ⊢
    rw [List.foldlM_cons, bind_assoc]
    refine (inspectSource_stores hw store call).bind fun out hout => ?_
    obtain ⟨middle, hsink, hmiddle⟩ := hout
    rw [pure_bind, hsink]
    refine (ih middle).imp fun sink hsink => ?_
    obtain ⟨after, rfl, hafter⟩ := hsink
    refine ⟨after, rfl, fun name hname => ?_⟩
    rw [hafter name hname, hmiddle name hname, ← Option.or_assoc]
    simp [lastContent, List.findSome?_append]

end

/-! ## Tables of one call -/

/-- All tables of records that a store holds are those of one call. -/
def OfOneCall (settings : Settings) (calls : List Call) (store : MemoryStore) : Prop :=
  ∃ call ∈ calls, ∀ name ∈ recordNames, ∀ sheet, store.tables.get? name = some sheet →
    call.content settings name = some sheet

/-- No call writes some of the tables, but fewer than a call before it. -/
def Uncut (settings : Settings) (calls : List Call) : Prop :=
  calls.Pairwise fun earlier call => call.written settings = [] ∨
    (earlier.written settings).length ≤ (call.written settings).length

theorem lastContent_concat (settings : Settings) (calls : List Call) (call : Call) (name : Text) :
    lastContent settings (calls ++ [call]) name =
      (call.content settings name).or (lastContent settings calls name) := by
  simp only [lastContent, List.reverse_append, List.reverse_singleton, List.singleton_append,
    List.findSome?_cons]
  cases call.content settings name <;> rfl

/-- Where no call is cut off, one call wrote all that is left: the last that wrote anything. -/
theorem exists_lastCall {settings : Settings} {calls : List Call} (hcalls : calls ≠ [])
    (huncut : Uncut settings calls) :
    ∃ call ∈ calls, ∀ name ∈ recordNames, ∀ sheet, lastContent settings calls name = some sheet →
      call.content settings name = some sheet := by
  induction calls using List.reverseRecOn with
  | nil => exact absurd rfl hcalls
  | append_singleton calls call ih =>
    obtain ⟨hbefore, -, hlast⟩ := List.pairwise_append.mp huncut
    by_cases hwritten : call.written settings = []
    · have hnone (name : Text) : call.content settings name = none := by
        unfold Call.content
        rw [hwritten]
        rfl
      simp only [lastContent_concat, hnone, Option.none_or]
      by_cases hempty : calls = []
      · subst hempty
        exact ⟨call, by simp, fun _ _ _ h => nomatch h⟩
      · obtain ⟨found, hfound, h⟩ := ih hempty hbefore
        exact ⟨found, List.mem_append_left _ hfound, h⟩
    · refine ⟨call, by simp, fun name _ sheet hsheet => ?_⟩
      rw [lastContent_concat] at hsheet
      cases hcontent : call.content settings name with
      | some content => rwa [hcontent] at hsheet
      | none =>
        -- An earlier call wrote this table, and so this one did.
        rw [hcontent, Option.none_or, lastContent] at hsheet
        obtain ⟨earlier, hearlier, hwrote⟩ := List.exists_of_findSome?_eq_some hsheet
        have hle := (hlast earlier (List.mem_reverse.mp hearlier) call (by simp)).resolve_left
          hwritten
        have hname := (earlier.isSome_content settings).mp (by rw [hwrote]; rfl)
        have hsome := (call.isSome_content settings).mpr
          ((List.take_prefix_take_left hle).subset hname)
        rw [hcontent] at hsome
        cases hsome

/-- The table behind the first `k`. -/
theorem exists_recordName :
    ∀ k < 4, ∃ name ∈ recordNames, name ∉ recordNames.take k ∧ name ∈ recordNames.take (k + 1) := by
  decide

/-- Behind a call that wrote more, the tags of a call that is cut off stand next to a table that it
did not write. -/
theorem lastContent_of_cut {settings : Settings} {calls : List Call} {earlier call : Call}
    (hearlier : earlier ∈ calls) (hwritten : call.written settings ≠ [])
    (hcut : (call.written settings).length < (earlier.written settings).length) :
    lastContent settings (calls ++ [call]) "GTM_Tags" = call.content settings "GTM_Tags" ∧
      ∃ name ∈ recordNames, call.content settings name = none ∧
        (lastContent settings (calls ++ [call]) name).isSome = true := by
  constructor
  · have htags : (call.content settings "GTM_Tags").isSome = true := by
      rw [Call.isSome_content]
      exact (List.take_prefix_take_left (List.length_pos_of_ne_nil hwritten)).subset (by decide)
    obtain ⟨sheet, hsheet⟩ := Option.isSome_iff_exists.mp htags
    rw [lastContent_concat, hsheet]
    rfl
  · obtain ⟨name, hname, hnot, hnext⟩ :=
      exists_recordName _ (hcut.trans_le (earlier.length_written_le settings))
    have hwrote := (List.take_prefix_take_left hcut).subset hnext
    have hnone : call.content settings name = none :=
      Option.not_isSome_iff_eq_none.mp (mt (call.isSome_content settings).mp hnot)
    refine ⟨name, hname, hnone, ?_⟩
    rw [lastContent_concat, hnone, Option.none_or, lastContent, List.findSome?_isSome_iff]
    exact ⟨earlier, List.mem_reverse.mpr hearlier, (earlier.isSome_content settings).mpr hwrote⟩

/-- **Tables of one call.** Calls on one inspector with a store in memory leave under the name of
every table of records what the last call put there that wrote it, and a call is cut off only by an
integer that is too long to be written. So all tables are those of one call, unless a call was cut
off behind one that wrote more. -/
theorem inspectAll_ofOneCall {m : Type → Type} [Monad m] [LawfulMonad m] [Host m]
    (i : Inspector m MemoryStore) (hw : i.writer = MemoryStore.writer m) (calls : List Call)
    (hcalls : calls ≠ []) :
    Returns (fun sink => ∃ store, sink = some store ∧
        (∀ name ∈ recordNames, store.tables.get? name = lastContent i.settings calls name) ∧
        (∀ call ∈ calls,
          Reaches (call.decoded i.settings).1 (call.written i.settings).length) ∧
        (Uncut i.settings calls → OfOneCall i.settings calls store))
      (inspectAll i (some {}) calls) := by
  refine (inspectAll_stores hw {} calls).imp fun sink hsink => ?_
  obtain ⟨store, rfl, hstore⟩ := hsink
  have hlast : ∀ name ∈ recordNames,
      store.tables.get? name = lastContent i.settings calls name := by
    intro name hname
    rw [hstore name hname]
    exact Option.or_none
  refine ⟨store, rfl, hlast, fun call _ => call.reaches_written i.settings, fun huncut => ?_⟩
  obtain ⟨call, hcall, h⟩ := exists_lastCall hcalls huncut
  refine ⟨call, hcall, fun name hname sheet hsheet => h name hname sheet ?_⟩
  rw [← hlast name hname, hsheet]

/-- An inspector on a machine in memory, with a store in memory. -/
def memoryInspector : Inspector InMemory MemoryStore where
  settings := {}
  fetcher := fun _ => return .error (.transport (.ok ""))
  writer := MemoryStore.writer InMemory

/-- A call that finds an empty tag and an empty variable. -/
def fullCall : Call where
  container := "GTM-A1"
  source := "var data = \x7b\"tags\":[\x7b\x7d],\"macros\":[\x7b\x7d]\x7d"

/-- A call that finds nothing. -/
def emptyCall : Call where
  container := "GTM-A1"
  source := []

/-- `fullCall` and then `emptyCall`, both of which write all tables. -/
theorem fullCall_ofOneCall :
    [fullCall, emptyCall] ≠ [] ∧ Uncut {} [fullCall, emptyCall] ∧
      Returns (fun sink => ∃ store, sink = some store ∧ OfOneCall {} [fullCall, emptyCall] store)
        (inspectAll memoryInspector (some {}) [fullCall, emptyCall]) := by
  have hempty : (emptyCall.decoded {}).1.isEmpty = true := by decide +kernel
  have huncut : Uncut {} [fullCall, emptyCall] := by
    rw [Uncut, List.pairwise_pair, Call.length_written_of_isEmpty hempty]
    exact .inr (fullCall.length_written_le {})
  refine ⟨by simp, huncut, ?_⟩
  refine (inspectAll_ofOneCall memoryInspector rfl [fullCall, emptyCall] (by simp)).imp ?_
  rintro sink ⟨store, hsink, -, -, hstore⟩
  exact ⟨store, hsink, hstore huncut⟩

/-! ## A call that is cut off -/

/-- A call on a container with one variable, which is no map but an integer. -/
def hexCall (digits : Text) : Call where
  container := "GTM-A1"
  source := ("var data = " : Text) ++ hexLiteral "macros" digits

section

variable {digits : Text} (hdigits : ∀ c ∈ digits, c.hexValue?.isSome = true) (hsome : digits ≠ [])
  (hlength : digits.length ≤ 4000000)

include hdigits hsome hlength

open Container in
/-- The one record of the call is the placeholder of its variable. -/
theorem decoded_hexCall : ∃ issues, ((hexCall digits).decoded {}).1 =
    { vars := [undecodedVariable (.int (hexValue digits)) 0], issues } := by
  have hbefore : (Source.sitePattern Source.varDataHead).search? ([] : Text) = none := by
    decide +kernel
  have hlocate : Source.locate ({} : Settings).locator (hexCall digits).source
      (hexCall digits).container.strip = hexDocument "macros" digits :=
    locate_hexLiteral (by decide) hdigits hsome hlength hbefore _
  unfold Call.decoded Inspector.decodeStage
  dsimp only
  rw [hlocate]
  exact ⟨_, rfl⟩

/-- The call writes a table of tags without rows. -/
theorem content_hexCall : (hexCall digits).content {} "GTM_Tags" = some ⟨tagColumns, []⟩ := by
  obtain ⟨issues, hmodel⟩ := decoded_hexCall hdigits hsome hlength
  unfold Call.content Call.written
  rw [hmodel]
  rfl

/-- It writes that table and the one of triggers, if the integer is too long to be written. -/
theorem length_written_hexCall (hlong : tenPow Fault.digitLimit ≤ (hexValue digits).natAbs) :
    ((hexCall digits).written {}).length = 2 := by
  obtain ⟨issues, hmodel⟩ := decoded_hexCall hdigits hsome hlength
  have hreaches := (hexCall digits).reaches_written {}
  generalize ((hexCall digits).written {}).length = n at hreaches ⊢
  rw [hmodel] at hreaches
  cases hreaches with
  | nothing htag _ => cases htag
  | tags _ htrigger _ => cases htrigger
  | triggers => rfl
  | all _ _ hvars => exact absurd (.int hlong) (hvars _ List.mem_cons_self)

end

/-- A call that is cut off behind a whole one leaves its tags next to the variables of the other. -/
theorem inspectAll_mixed :
    ¬Returns (fun sink => ∃ store, sink = some store ∧
        OfOneCall {} [fullCall, hexCall longDigits] store)
      (inspectAll memoryInspector (some {}) [fullCall, hexCall longDigits]) := by
  intro hone
  have hlength : longDigits.length ≤ 4000000 := longDigits_length
  have hsome : longDigits ≠ [] := List.cons_ne_nil _ _
  have htwo := length_written_hexCall longDigits_hex hsome hlength longDigits_long
  have hcut : ((hexCall longDigits).written {}).length < (fullCall.written {}).length := by
    have hvars : (fullCall.content {} "GTM_Variables").isSome = true := by decide +kernel
    rw [Call.isSome_content] at hvars
    by_contra hle
    rw [htwo, Nat.not_lt] at hle
    exact absurd ((List.take_prefix_take_left hle).subset hvars) (by decide)
  have hwritten : (hexCall longDigits).written {} ≠ [] := by
    intro h
    rw [h] at htwo
    cases htwo
  obtain ⟨htags, name, hname, hnone, hleft⟩ :=
    lastContent_of_cut (List.mem_singleton_self fullCall) hwritten hcut
  rw [content_hexCall longDigits_hex hsome hlength] at htags
  -- What is left after both calls is of one of them.
  obtain ⟨store, hsink, call, hcall, hstored⟩ := returns_state_iff.mp hone default
  obtain ⟨after, hafter, hlast⟩ := returns_state_iff.mp (inspectAll_stores (i := memoryInspector)
    rfl {} [fullCall, hexCall longDigits]) default
  obtain rfl : store = after := Option.some.inj (hsink.symm.trans hafter)
  have hstore {name : Text} (hname : name ∈ recordNames) : store.tables.get? name =
      lastContent {} ([fullCall] ++ [hexCall longDigits]) name :=
    (hlast name hname).trans Option.or_none
  rcases List.mem_cons.mp hcall with rfl | hcall
  · have hrow : ((fullCall.content {} "GTM_Tags").map (·.cells.length)) = some 1 := by
      decide +kernel
    rw [hstored _ (by decide) _ ((hstore (by decide)).trans htags)] at hrow
    cases hrow
  · obtain rfl := List.mem_singleton.mp hcall
    obtain ⟨sheet, hsheet⟩ := Option.isSome_iff_exists.mp hleft
    rw [hstored _ hname _ ((hstore hname).trans hsheet)] at hnone
    cases hnone

end TagAudit.Inspection
