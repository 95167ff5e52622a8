import TagAudit.Proofs.Literal.Machine

/-!
# Progress of the reader

The reader is the machine with `depthLimit` as its limit, and the machine takes at least one code
point in every step.

* `run_token`, `run_string`: the machine in a gap and in a string.
* `Simulates`: the machine does what the reader does with one value; `run_items`, `run_members`: the
  same for the loops over items and members.
* `read_eq_run`: a whole text.
* `Steps.spec`: what any number of steps leaves unread and can speak of.
* `reader_progress`: the reader stops after no more steps than the text has code points.
-/

namespace TagAudit.Literal

open Outcome (ok_bind bind_congr_of_ok)

/-! ## Gaps and strings -/

section

variable (nestingLimit : Nat)

theorem State.run_eq (s : State) :
    s.run nestingLimit = (do
      match ← s.step nestingLimit with
      | .goes s' => s'.run nestingLimit
      | .ends v => .ok v) := by
  rw [State.run]
  split <;> next h => rw [h]; rfl

/-- The machine in a gap, by what is behind the gap. -/
theorem run_token (goal : Goal) (gap : Gap) (frames : List Frame) (text : Text) :
    State.run nestingLimit ⟨.token goal gap, frames, text⟩ = (do
      match ← skipGap gap text with
      | [] => goal.meetEnd
      | c :: rest => (← goal.meet nestingLimit frames c rest).run nestingLimit) := by
  have hstep := gap.step_stays text
  rw [State.run_eq, State.step, skipGap_eq]
  simp only
  cases h : gap.step text with
  | error f => rfl
  | ok found =>
    rw [h] at hstep
    match found with
    | (some on, rest) =>
      have := hstep.1.2
      exact run_token goal on frames rest
    | (none, c :: rest) =>
      simp only [ok_bind]
      cases goal.meet nestingLimit frames c rest <;> rfl
    | (none, []) =>
      simp only [ok_bind]
      cases goal.meetEnd <;> rfl
termination_by text.length

/-- The machine in a string. -/
theorem run_string (role : Role) (opening : Text) (mark : CodePoint) (done : Text)
    (frames : List Frame) (text : Text) :
    State.run nestingLimit ⟨.string role opening mark done, frames, text⟩ = (do
      let (t, rest) ← readBody opening mark done text
      (role.close t rest frames).run nestingLimit) := by
  have hstep := spelling_stays opening mark text
  rw [State.run_eq, State.step, readBody_eq]
  simp only
  cases h : spelling opening mark text with
  | error f => rfl
  | ok found =>
    rw [h] at hstep
    match found with
    | (some t, rest) =>
      have := hstep.2
      exact run_string role opening mark (t ++ done) frames rest
    | (none, rest) => rfl
termination_by text.length

/-- The machine in front of a token. -/
theorem run_next {goal : Goal} (hgoal : goal.meetEnd = .error (.malformed .unexpectedEnd []))
    (frames : List Frame) (text : Text) :
    State.run nestingLimit ⟨.token goal .between, frames, text⟩ = (do
      let (c, rest) ← next text
      (← goal.meet nestingLimit frames c rest).run nestingLimit) := by
  rw [run_token, next]
  cases skipGap .between text with
  | error f => rfl
  | ok unread =>
    cases unread with
    | nil => exact hgoal
    | cons c rest => rfl

end

/-! ## Values -/

/-- What `next` finds is found again. -/
theorem next_again {text rest : Text} {c : CodePoint} (h : next text = .ok (c, rest)) :
    next (c :: rest) = .ok (c, rest) := by
  obtain ⟨g, rfl, hg⟩ := next_sound h
  rw [← h]
  unfold next
  rw [skipGap_append hg]

theorem length_of_next {text rest : Text} {c : CodePoint} (h : next text = .ok (c, rest)) :
    rest.length < text.length := by
  obtain ⟨g, rfl, -⟩ := next_sound h
  simp only [List.length_append, List.length_cons]
  omega

theorem length_of_readKey {c : CodePoint} {rest key after : Text}
    (h : readKey c rest = .ok (key, after)) : after.length ≤ rest.length := by
  obtain ⟨k, htext, hk⟩ := readKey_sound h
  obtain ⟨d, t, rfl, -⟩ := hk.exists_cons
  have := (Past.of_append htext (List.cons_ne_nil d t)).2
  rw [List.length_cons] at this
  omega

theorem length_of_readValue {steps depth : Nat} {text rest : Text} {v : Data}
    (h : readValue steps depth text = .ok (v, rest)) : rest.length ≤ text.length := by
  obtain ⟨g, s, rfl, -, -⟩ := readValue_yields _ _ h
  simp only [List.length_append]
  omega

section

variable {nestingLimit : Nat} (frames : List Frame) {c : CodePoint} {rest : Text}

/-- A value that is to come, by the first code point of it. -/
theorem enter_at {text : Text} (h : next text = .ok (c, rest)) :
    State.enter nestingLimit frames text >>= State.run nestingLimit =
      (if nestingLimit ≤ frames.length then .error .tooDeep
        else beginValue nestingLimit frames c rest) >>= State.run nestingLimit := by
  unfold State.enter
  split
  · rfl
  · simp only [ok_bind]
    rw [run_next nestingLimit rfl, h]
    rfl

/-- A key that is to come: the closing brace, or a key of either kind. -/
theorem meet_key (done : List (Text × Data)) :
    Goal.meet nestingLimit frames c rest (.key done) >>= State.run nestingLimit =
      if c = '\x7d' then
        (State.give (.object (Members.ofList done.reverse)) rest frames).run nestingLimit
      else (do
        let (key, after) ← readKey c rest
        State.run nestingLimit ⟨.token (.colon done key) .between, frames, after⟩) := by
  rw [Goal.meet]
  split
  · rfl
  split
  next hquote =>
    simp only [ok_bind]
    rw [run_string, readKey, if_pos hquote]
    rfl
  next => cases readKey c rest <;> rfl

end

section

variable (nestingLimit steps depth : Nat)

/-- The machine reads a value as the reader does that may go `depth` deeper, and gives it to what
waits for it. -/
def Simulates : Prop :=
  ∀ (frames : List Frame) (text : Text), frames.length + depth = nestingLimit →
    text.length ≤ steps →
    State.enter nestingLimit frames text >>= State.run nestingLimit = (do
      let (v, rest) ← readValue steps depth text
      (State.give v rest frames).run nestingLimit)

variable {nestingLimit steps depth} (hitem : Simulates nestingLimit steps depth)
  {frames : List Frame} (hframes : frames.length + (depth + 1) = nestingLimit)

include hitem hframes

/-- The machine in an array. -/
theorem run_items (bound : Nat) (done : List Data) (text : Text) (hbound : text.length < bound)
    (hsteps : text.length ≤ steps) :
    State.run nestingLimit ⟨.token (.item done) .between, frames, text⟩ = (do
      let (v, rest) ← readItems (readValue steps depth) bound done text
      (State.give v rest frames).run nestingLimit) := by
  induction bound generalizing done text with
  | zero => omega
  | succ bound ih =>
    rw [run_next nestingLimit rfl, readItems, bind_assoc]
    refine bind_congr_of_ok fun token hnext => ?_
    obtain ⟨c, rest⟩ := token
    have hrest := length_of_next hnext
    simp only [Goal.meet]
    split
    · rfl
    split
    · exact ih _ _ (by omega) (by omega)
    rw [← enter_at (.item done :: frames) (next_again hnext), hitem _ _
      (by rw [List.length_cons]; omega) (by rw [List.length_cons]; omega), bind_assoc]
    refine bind_congr_of_ok fun found hread => ?_
    obtain ⟨v, after⟩ := found
    have hafter := length_of_readValue hread
    rw [List.length_cons] at hafter
    simp only [State.give]
    rw [run_next nestingLimit rfl, bind_assoc]
    refine bind_congr_of_ok fun token hnext => ?_
    obtain ⟨d, tail⟩ := token
    have htail := length_of_next hnext
    simp only [Goal.meet]
    split
    · exact ih _ _ (by omega) (by omega)
    split <;> rfl

/-- The machine in an object. -/
theorem run_members (bound : Nat) (done : List (Text × Data)) (text : Text)
    (hbound : text.length < bound) (hsteps : text.length ≤ steps) :
    State.run nestingLimit ⟨.token (.key done) .between, frames, text⟩ = (do
      let (v, rest) ← readMembers (readValue steps depth) bound done text
      (State.give v rest frames).run nestingLimit) := by
  induction bound generalizing done text with
  | zero => omega
  | succ bound ih =>
    rw [run_next nestingLimit rfl, readMembers, bind_assoc]
    refine bind_congr_of_ok fun token hnext => ?_
    obtain ⟨c, rest⟩ := token
    have hrest := length_of_next hnext
    simp only
    rw [meet_key]
    split
    · rfl
    rw [bind_assoc]
    refine bind_congr_of_ok fun found hkey => ?_
    obtain ⟨key, afterKey⟩ := found
    have hafterKey := length_of_readKey hkey
    simp only
    rw [run_next nestingLimit rfl, bind_assoc]
    refine bind_congr_of_ok fun token hcolon => ?_
    obtain ⟨colon, afterColon⟩ := token
    have hafterColon := length_of_next hcolon
    simp only [Goal.meet]
    split
    · rfl
    rw [hitem _ _ (by rw [List.length_cons]; omega) (by omega), bind_assoc]
    refine bind_congr_of_ok fun found hread => ?_
    obtain ⟨v, after⟩ := found
    have hafter := length_of_readValue hread
    simp only [State.give]
    rw [run_next nestingLimit rfl, bind_assoc]
    refine bind_congr_of_ok fun token hnext => ?_
    obtain ⟨d, tail⟩ := token
    have htail := length_of_next hnext
    simp only [Goal.meet]
    split
    · exact ih _ _ (by omega) (by omega)
    split <;> rfl

end

/-- **The machine and the reader** do the same with one value. -/
theorem simulates (nestingLimit steps depth : Nat) : Simulates nestingLimit steps depth := by
  induction depth with
  | zero =>
    intro frames text hframes _
    rw [State.enter, if_pos (by omega)]
    rfl
  | succ depth ih =>
    intro frames text hframes hsteps
    rw [State.enter, if_neg (by omega), ok_bind, run_next nestingLimit rfl, readValue, bind_assoc]
    refine bind_congr_of_ok fun token hnext => ?_
    obtain ⟨c, rest⟩ := token
    have hrest := length_of_next hnext
    simp only [Goal.meet]
    rw [beginValue]
    split
    · exact run_members ih hframes steps [] rest (by omega) (by omega)
    split
    · exact run_items ih hframes steps [] rest (by omega) (by omega)
    split
    · rw [ok_bind, run_string]
      cases readBody (c :: rest) c [] rest <;> rfl
    split
    · rw [ih (.negation :: frames) rest (by rw [List.length_cons]; omega) (by omega)]
      cases readValue steps depth rest <;> rfl
    split
    · cases readNumber (c :: rest) <;> rfl
    split
    · cases readKeyword (c :: rest) <;> rfl
    · rfl

/-- **A whole text** is read by the machine. -/
theorem read_eq_run (text : Text) : read text = (State.start text).run depthLimit := by
  have hstart : State.enter depthLimit [] text >>= State.run depthLimit =
      (State.start text).run depthLimit := rfl
  rw [← hstart, simulates depthLimit (text.length + 1) depthLimit [] text (Nat.zero_add _)
    (Nat.le_succ _), read]
  cases readValue (text.length + 1) depthLimit text with
  | error f => rfl
  | ok found =>
    obtain ⟨v, rest⟩ := found
    simp only [ok_bind, State.give]
    rw [run_token]
    cases skipGap .between rest with
    | error f => rfl
    | ok unread => cases unread <;> rfl

/-! ## Steps -/

/-- A number of steps from one state to another. -/
inductive Steps (nestingLimit : Nat) : Nat → State → State → Prop where
  | none (s : State) : Steps nestingLimit 0 s s
  | cons {n : Nat} {s s' s'' : State} : s.step nestingLimit = .ok (.goes s') →
    Steps nestingLimit n s' s'' → Steps nestingLimit (n + 1) s s''

/-- **Any number of steps** takes at least as many code points, and leaves a state that speaks of no
place that was not known before. -/
theorem Steps.spec {nestingLimit n : Nat} {s s' : State} (h : Steps nestingLimit n s s') :
    s'.unread <:+ s.unread ∧ s'.unread.length + n ≤ s.unread.length ∧
      ∀ place, s'.Knows place → s.Knows place := by
  induction h with
  | none s => exact ⟨List.suffix_rfl, Nat.le_refl _, fun _ => id⟩
  | @cons n s s' s'' hstep _ ih =>
    have hspec := s.step_stays nestingLimit
    rw [hstep] at hspec
    obtain ⟨⟨hsuffix, hlength⟩, hknows⟩ := hspec
    obtain ⟨ihsuffix, ihlength, ihknows⟩ := ih
    exact ⟨ihsuffix.trans hsuffix, by omega, fun place h => hknows place (ihknows place h)⟩

/-- The machine comes to a stop, with what a run gives. -/
theorem Steps.exists_stop (nestingLimit : Nat) (s : State) :
    ∃ n s', Steps nestingLimit n s s' ∧
      s'.step nestingLimit = (s.run nestingLimit).map Move.ends := by
  rw [State.run_eq]
  cases hstep : s.step nestingLimit with
  | error f => exact ⟨0, s, .none s, hstep⟩
  | ok move =>
    cases move with
    | ends v => exact ⟨0, s, .none s, hstep⟩
    | goes s' =>
      have := (State.past_of_goes hstep).2
      obtain ⟨n, s'', hsteps, hstop⟩ := Steps.exists_stop nestingLimit s'
      exact ⟨n + 1, s'', .cons hstep hsteps, hstop⟩
termination_by s.unread.length

/-! ## Positions -/

/-- How much of a text has been read. -/
def State.position (source : Text) (s : State) : Nat := source.length - s.unread.length

theorem drop_position {source unread : Text} (h : unread <:+ source) :
    source.drop (source.length - unread.length) = unread := by
  obtain ⟨read, rfl⟩ := h
  simp

theorem State.knows_start {text place : Text} : (State.start text).Knows place ↔ place <:+ text :=
  or_iff_left nofun

/-- How the reader gets on in a text. -/
structure Progress (text : Text) : Prop where
  /-- Every step leaves less unread than there was, and so moves the position on, however deep the
  values may be nested. -/
  forward : ∀ nestingLimit n s s', Steps nestingLimit n (.start text) s →
    s.step nestingLimit = .ok (.goes s') →
    s'.unread.length < s.unread.length ∧ s.position text < s'.position text
  /-- The position is a place in the text, and what is unread is the text from there on. -/
  inside : ∀ nestingLimit n s, Steps nestingLimit n (.start text) s →
    n ≤ s.position text ∧ s.position text ≤ text.length ∧ text.drop (s.position text) = s.unread
  /-- After no more steps than the text has code points the reader stops with its outcome, and if
  that is a value, at the end of the text. -/
  stops : ∃ n s, Steps depthLimit n (.start text) s ∧ n ≤ text.length ∧
    s.step depthLimit = (read text).map Move.ends ∧
    ∀ v, read text = .ok v → s.position text = text.length
  /-- What is blamed for a refusal is a place in the text. -/
  blamed : ∀ problem unread, read text = .error (.malformed problem unread) →
    ∃ offset, Failure.offset? text (.malformed problem unread) = some offset ∧
      offset ≤ text.length ∧ text.drop offset = unread

/-- **The reader always gets on** and stops in every text. -/
theorem reader_progress (text : Text) : Progress text := by
  -- All states have a known part of the text unread and speak of no other place.
  have reached {nestingLimit n : Nat} {s : State} (h : Steps nestingLimit n (.start text) s) :
      s.unread <:+ text ∧ s.unread.length + n ≤ text.length ∧ ∀ u, s.Knows u → u <:+ text := by
    obtain ⟨hsuffix, hlength, hknows⟩ := h.spec
    exact ⟨hsuffix, hlength, fun u hu => State.knows_start.mp (hknows u hu)⟩
  obtain ⟨n, s, hsteps, hstop⟩ := Steps.exists_stop depthLimit (.start text)
  rw [← read_eq_run] at hstop
  have hlast := s.step_stays depthLimit
  rw [hstop] at hlast
  obtain ⟨-, hlength, hknows⟩ := reached hsteps
  exact {
    forward := fun nestingLimit n s s' h hstep => by
      have hless := (State.past_of_goes hstep).2
      have hbound := (reached h).2.1
      exact ⟨hless, by unfold State.position; omega⟩
    inside := fun nestingLimit n s h => by
      obtain ⟨hsuffix, hlength, -⟩ := reached h
      exact ⟨by unfold State.position; omega, Nat.sub_le _ _, drop_position hsuffix⟩
    stops := by
      refine ⟨n, s, hsteps, by omega, hstop, fun v hv => ?_⟩
      rw [hv] at hlast
      have hunread : s.unread = [] := hlast
      rw [State.position, hunread, List.length_nil, Nat.sub_zero]
    blamed := fun problem unread h => by
      rw [h] at hlast
      exact ⟨_, rfl, Nat.sub_le _ _, drop_position (hknows unread hlast)⟩ }

end TagAudit.Literal
