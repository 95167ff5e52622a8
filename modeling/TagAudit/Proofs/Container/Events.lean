import TagAudit.Proofs.Container.References

/-!
# Events that triggers test

A trigger takes the name of its event from its conditions, which come from the predicates that a
rule lists. A condition that is negated, or whose operand cannot be the name of an event, names
none.

* `Condition.namesEvent`: a condition that names an event; `eventName_eq`: the first one decides.
* `triggerType_first`: without an event, the first condition alone decides, a negated one too.
* `triggerType_pageView_iff`: the conditions that make a page view.
-/

namespace TagAudit.Container

open Outcome (bind_eq_ok mapM_eq_ok)

/-! ## Conditions on the event -/

/-- Whether a condition is on the variable that holds the event. -/
def Condition.IsOnEvent (c : Condition) : Prop := referred? c.subject = some eventPosition

instance (c : Condition) : Decidable c.IsOnEvent :=
  inferInstanceAs (Decidable (referred? c.subject = some eventPosition))

/-- Whether a condition names an event: one on the event that is not negated, tests for equality or
a part, and has an operand that can be the name of an event. -/
def Condition.namesEvent (c : Condition) : Bool :=
  !c.negated && decide c.IsOnEvent &&
    (equalityOperators ++ containsOperators).contains c.operator && isPlausible c.operand

theorem Condition.IsOnEvent.not_misrefers {c : Condition} (h : c.IsOnEvent) :
    ¬Misrefers c.subject := by
  rintro ⟨target, htarget, hmisread⟩
  rw [IsOnEvent, referred?, htarget] at h
  cases target with
  | text t => simp [Data.numbered?, hmisread.2] at h
  | _ => exact hmisread

theorem testsEvent_eq_ok {c : Condition} {onEvent : Bool} (h : c.testsEvent = .ok onEvent) :
    onEvent = decide c.IsOnEvent := (testsEvent_eq_ok_iff.mp h).2

theorem Condition.IsOnEvent.testsEvent_eq {c : Condition} (h : c.IsOnEvent) :
    c.testsEvent = .ok true :=
  testsEvent_eq_ok_iff.mpr ⟨h.not_misrefers, (decide_eq_true h).symm⟩

theorem Condition.namesEvent_iff {c : Condition} :
    c.namesEvent = true ↔ c.negated = false ∧ c.IsOnEvent ∧
      c.operator ∈ equalityOperators ++ containsOperators ∧ isPlausible c.operand = true := by
  simp [namesEvent, and_assoc]

theorem ne_nil_of_isPlausible {operand : Text} (h : isPlausible operand = true) : operand ≠ [] := by
  rintro rfl
  cases h

/-- **The event.** The first condition that names an event decides. -/
theorem eventName_eq {cs : List Condition} {event : Text} (h : eventName cs = .ok event) :
    event = ((cs.find? (·.namesEvent)).map (·.operand)).getD [] := by
  induction cs with
  | nil => cases h; rfl
  | cons c rest ih =>
    rw [eventName] at h
    split at h
    case isTrue hnegated =>
      have hpassed : c.namesEvent = false := by simp [Condition.namesEvent, hnegated]
      rw [List.find?_cons_of_neg (by simp [hpassed])]
      exact ih h
    case isFalse hnegated =>
      obtain ⟨onEvent, honEvent, h⟩ := bind_eq_ok.mp h
      obtain rfl := testsEvent_eq_ok honEvent
      have hnames : (decide c.IsOnEvent &&
          (equalityOperators ++ containsOperators).contains c.operator &&
          isPlausible c.operand) = c.namesEvent := by
        simp [Condition.namesEvent, hnegated]
      rw [hnames] at h
      split at h
      case isTrue hc =>
        cases h
        rw [List.find?_cons_of_pos hc]
        rfl
      case isFalse hc =>
        rw [List.find?_cons_of_neg hc]
        exact ih h

theorem eventName_eq_nil {cs : List Condition} (h : eventName cs = .ok []) :
    ∀ c ∈ cs, c.namesEvent = false := by
  have hnone : cs.find? (·.namesEvent) = none := by
    cases hfind : cs.find? (·.namesEvent) with
    | none => rfl
    | some c =>
      have hplausible := (Condition.namesEvent_iff.mp (List.find?_some hfind)).2.2.2
      have hoperand := eventName_eq h
      rw [hfind] at hoperand
      exact absurd hoperand.symm (ne_nil_of_isPlausible hplausible)
  simpa using hnone

/-! ## Page views -/

/-- The kind of a trigger for every page. -/
def pageView : Text := "Page View"

/-- The event of loading a page. -/
def pageEvent : Text := "gtm.js"

theorem isTestOf_eq_true_iff {c : Condition} {event : Text} :
    c.isTestOf event = .ok true ↔ c.IsOnEvent ∧ c.operand = event := by
  rw [Condition.isTestOf, bind_eq_ok]
  constructor
  · rintro ⟨onEvent, honEvent, h⟩
    obtain rfl := testsEvent_eq_ok honEvent
    simpa [pure, Except.pure] using h
  · rintro ⟨honEvent, rfl⟩
    exact ⟨true, honEvent.testsEvent_eq, by simp [pure, Except.pure]⟩

/-- Only the event of loading a page has the label of page views, and no label is theirs with a
note behind it. -/
theorem lifecycleTriggers_pageView :
    ∀ m ∈ lifecycleTriggers, (m.2 = pageView → m.1 = pageEvent) ∧
      m.2 ++ (" (conditional)" : Text) ≠ pageView := by decide

/-- With an event, a trigger is a page view if it tests for the event of loading a page and nothing
else. -/
theorem triggerType_eq_pageView_of_event {cs : List Condition} {event : Text} (h : event ≠ []) :
    triggerType cs event = .ok pageView ↔
      event = pageEvent ∧ ∀ c ∈ cs, c.IsOnEvent ∧ c.operand = pageEvent := by
  have hevent : (!event.isEmpty) = true := by simpa using h
  unfold triggerType
  rw [if_pos hevent, bind_eq_ok]
  constructor
  · rintro ⟨tests, htests, hlabel⟩
    cases hfind : lifecycleTriggers.find? fun m => decide (m.1 = event) with
    | none =>
      rw [hfind] at hlabel
      exact absurd (Except.ok.inj hlabel) (by decide)
    | some m =>
      have hm := lifecycleTriggers_pageView m (List.mem_of_find?_eq_some hfind)
      obtain rfl : m.1 = event := by simpa using List.find?_some hfind
      rw [hfind] at hlabel
      dsimp only at hlabel
      split at hlabel
      case isFalse => exact absurd (Except.ok.inj hlabel) hm.2
      case isTrue hall =>
        have hpage : m.1 = pageEvent := hm.1 (Except.ok.inj hlabel)
        refine ⟨hpage, fun c hc => ?_⟩
        have htrue : c.isTestOf m.1 = .ok true := by
          obtain ⟨test, htest, hc⟩ :=
            List.mem_map.mp (mapM_eq_ok.mp htests ▸ List.mem_map_of_mem hc)
          have htest : test = true := List.all_eq_true.mp hall test htest
          rw [← hc, htest]
        rwa [isTestOf_eq_true_iff, hpage] at htrue
  · rintro ⟨rfl, hcs⟩
    have htests : cs.mapM (·.isTestOf pageEvent) = .ok (cs.map fun _ => true) := by
      rw [mapM_eq_ok, List.map_map]
      exact List.map_congr_left fun c hc => isTestOf_eq_true_iff.mpr (hcs c hc)
    refine ⟨_, htests, ?_⟩
    have hall : (cs.map fun _ => true).all id = true := by simp
    have hfind : lifecycleTriggers.find? (fun m => decide (m.1 = pageEvent)) =
        some (pageEvent, pageView) := by decide
    rw [hfind]
    dsimp only
    rw [if_pos hall]
    rfl

/-- The kind of a trigger whose first condition is no test for equality with the event. -/
def kindOfFirst (c : Condition) : Text :=
  if c.operator ∈ containsOperators then "Page View (conditional)" else "Custom Trigger"

theorem kindOfFirst_ne_pageView (c : Condition) : kindOfFirst c ≠ pageView := by
  unfold kindOfFirst
  split <;> decide

/-- Without an event, the first condition alone decides. -/
theorem triggerType_first (c : Condition) (rest : List Condition) :
    triggerType (c :: rest) [] =
      if c.operator ∈ equalityOperators then
        do return if ← c.testsEvent then pageView else kindOfFirst c
      else .ok (kindOfFirst c) := by
  have hlabel (onEvent : Bool) :
      (if onEvent then pure pageView
        else if c.operator ∈ containsOperators then pure "Page View (conditional)"
        else pure "Custom Trigger" : Except Fault Text) =
      pure (if onEvent then pageView else kindOfFirst c) := by
    unfold kindOfFirst
    split <;> [rfl; split <;> rfl]
  unfold triggerType
  rw [if_neg (by decide)]
  simp only [List.contains_eq_mem, decide_eq_true_eq]
  split
  · exact congrArg (c.testsEvent >>= ·) (funext hlabel)
  · exact hlabel false

/-- Without an event, a trigger is a page view if its first condition tests for equality with the
event, whatever it tests for. -/
theorem triggerType_nil_eq_pageView_iff {cs : List Condition} :
    triggerType cs [] = .ok pageView ↔
      ∃ c rest, cs = c :: rest ∧ c.operator ∈ equalityOperators ∧ c.IsOnEvent := by
  cases cs with
  | nil => exact iff_of_false (by decide) (by rintro ⟨_, _, ⟨⟩, -⟩)
  | cons c rest =>
    rw [triggerType_first]
    constructor
    · intro h
      refine ⟨c, rest, rfl, ?_⟩
      split at h
      case isFalse => exact absurd (Except.ok.inj h) (kindOfFirst_ne_pageView c)
      case isTrue hoperator =>
        obtain ⟨onEvent, honEvent, h⟩ := bind_eq_ok.mp h
        obtain rfl := testsEvent_eq_ok honEvent
        refine ⟨hoperator, ?_⟩
        by_contra hon
        rw [if_neg (by simpa using hon)] at h
        exact kindOfFirst_ne_pageView c (Except.ok.inj h)
    · rintro ⟨_, _, ⟨rfl, rfl⟩, hoperator, hon⟩
      rw [if_pos hoperator, hon.testsEvent_eq]
      rfl

/-- **Page views.** The triggers for every page are those whose conditions all test for the event of
loading a page, and those without an event whose first condition tests for equality with the event:
that condition is negated, or its operand cannot be the name of an event. -/
theorem triggerType_pageView_iff {cs : List Condition} {event : Text}
    (h : eventName cs = .ok event) :
    triggerType cs event = .ok pageView ↔
      (event = pageEvent ∧ ∀ c ∈ cs, c.IsOnEvent ∧ c.operand = pageEvent) ∨
      (event = [] ∧ ∃ c rest, cs = c :: rest ∧ c.operator ∈ equalityOperators ∧ c.IsOnEvent ∧
        (c.negated = true ∨ isPlausible c.operand = false)) := by
  by_cases hevent : event = []
  · subst hevent
    have hpage : ([] : Text) ≠ pageEvent := by decide
    rw [triggerType_nil_eq_pageView_iff]
    simp only [hpage, false_and, false_or, true_and]
    constructor
    · rintro ⟨c, rest, rfl, hoperator, hon⟩
      refine ⟨c, rest, rfl, hoperator, hon, ?_⟩
      by_contra hnamed
      have hnone := eventName_eq_nil h c List.mem_cons_self
      rw [← Bool.not_eq_true, Condition.namesEvent_iff] at hnone
      refine hnone ⟨?_, hon, List.mem_append_left _ hoperator, ?_⟩ <;> simp_all
    · rintro ⟨c, rest, rfl, hoperator, hon, -⟩
      exact ⟨c, rest, rfl, hoperator, hon⟩
  · rw [triggerType_eq_pageView_of_event hevent]
    simp [hevent]

/-- Two tests for the event of loading a page, one of them with the position of the event as a
numeral. -/
def pageConditions : List Condition := [
  { operator := "_eq", subject := .array [.text "macro", .int 0], operand := "gtm.js" },
  { operator := "_cn", subject := .object [("macro", .text "0")], operand := "gtm.js" }]

theorem pageConditions_pageView :
    eventName pageConditions = .ok pageEvent ∧
      triggerType pageConditions pageEvent = .ok pageView := by
  have hname : eventName pageConditions = .ok pageEvent := by decide +kernel
  refine ⟨hname, (triggerType_pageView_iff hname).mpr (.inl ⟨rfl, ?_⟩)⟩
  decide +kernel

/-- A negated test for the event of loading a page. -/
def otherPages : List Condition := [
  { operator := "_eq", subject := .array [.text "macro", .int 0], operand := "gtm.js",
    negated := true }]

/-- A negated test names no event and makes a page view all the same. -/
theorem otherPages_pageView :
    eventName otherPages = .ok [] ∧ triggerType otherPages [] = .ok pageView ∧
      ([] : Text) ≠ pageEvent := by
  decide +kernel

end TagAudit.Container
