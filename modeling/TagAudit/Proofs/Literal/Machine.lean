import TagAudit.Proofs.Literal.Reading

/-!
# The reader in steps

A machine that reads literals in small steps, with the open arrays, objects and negations on a
stack. Inside gaps and strings it steps from one code point to the next; a number, a word or a
separator is one step.

* `Gap.step`, `spelling`: one step in a gap and in a string; `skipGap_eq`, `readBody_eq` put them
  together again.
* `State.step`: one step of the machine, `nestingLimit` being how many values may be open.
* `State.Knows`: the places of the text that a state can still speak of.
* `State.step_stays`: a step goes on behind the front of what is unread, and neither the new state
  nor a failure speaks of a place that was not known before.
* `State.run`: the machine until it stops, by recursion on what is unread.
-/

namespace TagAudit.Literal

open Outcome (bind_eq_error)

/-- A text goes on with `rest` behind at least one code point. -/
def Past (text rest : Text) : Prop := rest <:+ text ∧ rest.length < text.length

theorem Past.of_cons {c : CodePoint} {text rest : Text} (h : rest <:+ text) :
    Past (c :: text) rest :=
  ⟨h.trans (List.suffix_cons c text), Nat.lt_succ_of_le h.length_le⟩

theorem Past.of_append {s text rest : Text} (h : text = s ++ rest) (hs : s ≠ []) :
    Past text rest := by
  obtain ⟨c, s, rfl⟩ := List.exists_cons_of_ne_nil hs
  exact h ▸ .of_cons (List.suffix_append s rest)

/-- What a failure says of the place that it blames, if it blames one. -/
def Failure.Blames (place : Text → Prop) : Failure → Prop
  | .malformed _ unread => place unread
  | .longNumeral _ | .keyDigit | .tooDeep => True

/-- An outcome that is a result with a property, or a failure that blames a known place if it blames
any. -/
def Stays {α : Type} (place : Text → Prop) (p : α → Prop) : Except Failure α → Prop
  | .ok a => p a
  | .error f => f.Blames place

/-! ## Gaps -/

/-- The opening of the comment that is being passed over. -/
def Gap.opening? : Gap → Option Text
  | .between | .line => none
  | .block opening => some opening

/-- One step in a gap, or none where the gap ends. -/
def Gap.step : Gap → Text → Except Failure (Option Gap × Text)
  | .between, c :: d :: rest =>
    if isBlank c then .ok (some .between, d :: rest)
    else if c = '/' && d = '/' then .ok (some .line, rest)
    else if c = '/' && d = '*' then .ok (some (.block (c :: d :: rest)), rest)
    else .ok (none, c :: d :: rest)
  | .between, [c] => if isBlank c then .ok (some .between, []) else .ok (none, [c])
  | .line, c :: rest => .ok (some (if c = '\n' then .between else .line), rest)
  | .block opening, c :: d :: rest =>
    if c = '*' && d = '/' then .ok (some .between, rest) else .ok (some (.block opening), d :: rest)
  | .block opening, [_] | .block opening, [] => .error (.malformed .unterminatedComment opening)
  | .between, [] | .line, [] => .ok (none, [])

/-- Steps until the gap ends pass over it. -/
theorem skipGap_eq (gap : Gap) (text : Text) :
    skipGap gap text = (do
      match ← gap.step text with
      | (some gap, rest) => skipGap gap rest
      | (none, rest) => .ok rest) := by
  match gap, text with
  | .between, [] | .line, [] | .block _, [] | .block _, [_] => rfl
  | .between, [c] =>
    rw [skipGap, Gap.step]
    split <;> rfl
  | .between, c :: d :: rest =>
    rw [skipGap, Gap.step]
    split
    · rfl
    split
    · rfl
    split <;> rfl
  | .line, c :: rest =>
    rw [skipGap, Gap.step]
    split <;> rfl
  | .block opening, c :: d :: rest =>
    rw [skipGap, Gap.step]
    split <;> rfl

theorem Gap.step_stays (gap : Gap) (text : Text) :
    Stays (· ∈ gap.opening?)
      (fun (on, rest) => match on with
        | some on => Past text rest ∧
          ∀ opening ∈ on.opening?, opening = text ∨ opening ∈ gap.opening?
        | none => rest = text)
      (gap.step text) := by
  have past₁ (c : CodePoint) (rest : Text) : Past (c :: rest) rest := .of_cons List.suffix_rfl
  have past₂ (c d : CodePoint) (rest : Text) : Past (c :: d :: rest) rest :=
    .of_cons (List.suffix_cons d rest)
  unfold Gap.step
  split
  case h_1 c d rest =>
    split
    · exact ⟨past₁ _ _, nofun⟩
    split
    · exact ⟨past₂ _ _ _, nofun⟩
    split
    · exact ⟨past₂ _ _ _, by rintro _ ⟨⟩; exact .inl rfl⟩
    · exact rfl
  case h_2 c =>
    split
    · exact ⟨past₁ _ _, nofun⟩
    · exact rfl
  case h_3 c rest =>
    refine ⟨past₁ _ _, ?_⟩
    split <;> exact nofun
  case h_4 opening c d rest =>
    split
    · exact ⟨past₂ _ _ _, nofun⟩
    · exact ⟨past₁ _ _, fun _ => .inr⟩
  case h_5 | h_6 => exact rfl
  case h_7 | h_8 => exact rfl

/-! ## Strings -/

/-- One code point of a string and what it stands for, in reverse; nothing for the closing mark. -/
def spelling (opening : Text) (mark : CodePoint) : Text → Except Failure (Option Text × Text)
  | [] => .error (.malformed .unterminatedString opening)
  | c :: rest =>
    if c = mark then .ok (none, rest)
    else if c = '\\' then
      match rest with
      | [] => .error (.malformed .unterminatedString opening)
      | e :: after =>
        if e = 'u' then
          match after with
          | d₁ :: d₂ :: d₃ :: d₄ :: more =>
            match hexCode? [d₁, d₂, d₃, d₄] with
            | some code => .ok (some [code], more)
            | none => .error (.malformed .unicodeEscape rest)
          | _ => .error (.malformed .unicodeEscape rest)
        else if e = 'x' then
          match after with
          | d₁ :: d₂ :: more =>
            match hexCode? [d₁, d₂] with
            | some code => .ok (some [code], more)
            | none => .error (.malformed .hexEscape rest)
          | _ => .error (.malformed .hexEscape rest)
        else .ok (some (simpleEscape e), after)
    else if c = '\n' then .error (.malformed .newlineInString (c :: rest))
    else .ok (some [c], rest)

/-- Spelling until the closing mark reads a string. -/
theorem readBody_eq (opening : Text) (mark : CodePoint) (done text : Text) :
    readBody opening mark done text = (do
      match ← spelling opening mark text with
      | (some t, rest) => readBody opening mark (t ++ done) rest
      | (none, rest) => .ok (done.reverse, rest)) := by
  rw [readBody.eq_def]
  fun_cases spelling opening mark text <;> simp_all [bind, Except.bind]

theorem spelling_stays (opening : Text) (mark : CodePoint) (text : Text) :
    Stays (fun place => place <:+ text ∨ place = opening) (fun (_, rest) => Past text rest)
      (spelling opening mark text) := by
  have back {c : CodePoint} {s text rest : Text} (h : text = s ++ rest) : Past (c :: text) rest :=
    .of_cons (h ▸ List.suffix_append s rest)
  fun_cases spelling opening mark text
  case case1 | case3 => exact .inr rfl
  case case2 rest | case12 c rest _ _ _ => exact back (List.nil_append rest).symm
  case case4 d₁ d₂ d₃ d₄ more _ _ _ => exact back (s := ['u', d₁, d₂, d₃, d₄]) rfl
  case case7 d₁ d₂ more _ _ _ _ => exact back (s := ['x', d₁, d₂]) rfl
  case case10 e after _ _ _ => exact back (s := [e]) rfl
  case case5 | case6 | case8 | case9 => exact .inl (List.suffix_cons _ _)
  case case11 => exact .inl List.suffix_rfl

/-! ## Numbers, words and keys -/

theorem value_stays (token : NumberToken) (place : Text → Prop) :
    Stays place (fun _ => True) token.value := by
  obtain ⟨negative, magnitude, spelled⟩ := token
  cases magnitude with
  | hex digits => trivial
  | whole digits =>
    unfold NumberToken.value
    simp only
    split <;> trivial
  | scaled digits places power => trivial

theorem readNumber_stays (text : Text) :
    Stays (· <:+ text) (fun (_, rest) => Past text rest) (readNumber text) := by
  cases h : readNumber text with
  | ok found =>
    obtain ⟨s, htext, hs⟩ := readNumber_sound h
    obtain ⟨c, t, rfl, -⟩ := hs.exists_cons
    exact .of_append htext (List.cons_ne_nil c t)
  | error f =>
    unfold readNumber at h
    split at h
    case h_1 token after _ =>
      have hvalue := value_stays token (· <:+ text)
      obtain herror | ⟨_, -, hok⟩ := bind_eq_error.mp h
      · rwa [herror] at hvalue
      · cases hok
    case h_2 =>
      cases h
      exact List.suffix_rfl

theorem readKeyword_stays (text : Text) :
    Stays (· <:+ text) (fun (_, rest) => Past text rest) (readKeyword text) := by
  cases h : readKeyword text with
  | ok found =>
    obtain ⟨s, htext, hs⟩ := readKeyword_sound h
    obtain ⟨⟨c, t, rfl, -⟩, -⟩ := keyword_spec hs
    exact .of_append htext (List.cons_ne_nil c t)
  | error f =>
    unfold readKeyword at h
    simp only at h
    split at h <;> cases h
    exact List.suffix_rfl

/-- A key that is no string. -/
theorem readKey_stays {c : CodePoint} (hc : isQuote c = false) (rest : Text) :
    Stays (· <:+ c :: rest) (fun (_, after) => Past (c :: rest) after) (readKey c rest) := by
  cases h : readKey c rest with
  | ok found =>
    obtain ⟨k, htext, hk⟩ := readKey_sound h
    obtain ⟨d, t, rfl, -⟩ := hk.exists_cons
    exact .of_append htext (List.cons_ne_nil d t)
  | error f =>
    unfold readKey at h
    rw [if_neg (by simp [hc])] at h
    split at h
    · split at h <;> cases h
      trivial
    split at h <;> cases h
    exact List.suffix_rfl

/-! ## The machine -/

/-- What is to come behind a gap. -/
inductive Goal where
  | value
  /-- An item behind others, or the closing bracket. -/
  | item (done : List Data)
  /-- The key of a member behind others, or the closing brace. -/
  | key (done : List (Text × Data))
  /-- The colon behind a key. -/
  | colon (done : List (Text × Data)) (key : Text)
  /-- A comma behind an item, or the closing bracket. -/
  | afterItem (done : List Data)
  /-- A comma behind a member, or the closing brace. -/
  | afterMember (done : List (Text × Data))
  /-- Nothing more behind the value of the whole text. -/
  | nothing (v : Data)

/-- What a string is: a value, or the key of a member behind others. -/
inductive Role where
  | value
  | key (done : List (Text × Data))

/-- What the machine is at. -/
inductive Task where
  | token (goal : Goal) (gap : Gap)
  /-- In a string; what has been read of it stands in reverse in `done`. -/
  | string (role : Role) (opening : Text) (mark : CodePoint) (done : Text)

/-- What waits for the value that is being read. -/
inductive Frame where
  | negation
  | item (done : List Data)
  | member (done : List (Text × Data)) (key : Text)

/-- A state of the machine. -/
structure State where
  task : Task
  frames : List Frame
  unread : Text

/-- The start of a text. -/
def State.start (text : Text) : State := ⟨.token .value .between, [], text⟩

/-- The opening of the comment or string that is being read. -/
def Task.opening? : Task → Option Text
  | .token _ gap => gap.opening?
  | .string _ opening _ _ => some opening

/-- The places that a state can speak of: what is unread, and the opening. -/
def State.Knows (s : State) (place : Text) : Prop := place <:+ s.unread ∨ place ∈ s.task.opening?

/-- A value has been read and is given to what waits for it. -/
def State.give (v : Data) (unread : Text) : List Frame → State
  | [] => ⟨.token (.nothing v) .between, [], unread⟩
  | .negation :: frames => give (.bool !v.isTruthy) unread frames
  | .item done :: frames => ⟨.token (.afterItem (v :: done)) .between, frames, unread⟩
  | .member done key :: frames =>
    ⟨.token (.afterMember ((key, v) :: done)) .between, frames, unread⟩

/-- A string has been read. -/
def Role.close (t unread : Text) (frames : List Frame) : Role → State
  | .value => .give (.text t) unread frames
  | .key done => ⟨.token (.colon done t) .between, frames, unread⟩

/-- What a step leads to. -/
inductive Move where
  | goes (s : State)
  | ends (v : Data)

section

variable (nestingLimit : Nat) (frames : List Frame) (c : CodePoint) (rest : Text)

/-- A value is to come inside the frames. -/
def State.enter (unread : Text) : Except Failure State :=
  if nestingLimit ≤ frames.length then .error .tooDeep
  else .ok ⟨.token .value .between, frames, unread⟩

/-- The first step of a value. -/
def beginValue : Except Failure State :=
  if c = '\x7b' then .ok ⟨.token (.key []) .between, frames, rest⟩
  else if c = '[' then .ok ⟨.token (.item []) .between, frames, rest⟩
  else if isQuote c then .ok ⟨.string .value (c :: rest) c [], frames, rest⟩
  else if c = '!' then State.enter nestingLimit (.negation :: frames) rest
  else if isNumberStart c then do
    let (v, after) ← readNumber (c :: rest)
    return .give v after frames
  else if isWordStart c then do
    let (v, after) ← readKeyword (c :: rest)
    return .give v after frames
  else .error (.malformed (.unexpectedCharacter c) (c :: rest))

/-- The step at the token behind a gap. -/
def Goal.meet : Goal → Except Failure State
  | .value => beginValue nestingLimit frames c rest
  | .item done =>
    if c = ']' then .ok (.give (.array done.reverse) rest frames)
    else if c = ',' then .ok ⟨.token (.item (.null :: done)) .between, frames, rest⟩
    else if nestingLimit ≤ (Frame.item done :: frames).length then .error .tooDeep
    else beginValue nestingLimit (.item done :: frames) c rest
  | .key done =>
    if c = '\x7d' then .ok (.give (.object (Members.ofList done.reverse)) rest frames)
    else if isQuote c then .ok ⟨.string (.key done) (c :: rest) c [], frames, rest⟩
    else do
      let (name, after) ← readKey c rest
      return ⟨.token (.colon done name) .between, frames, after⟩
  | .colon done name =>
    if c ≠ ':' then .error (.malformed .missingColon (c :: rest))
    else State.enter nestingLimit (.member done name :: frames) rest
  | .afterItem done =>
    if c = ',' then .ok ⟨.token (.item done) .between, frames, rest⟩
    else if c = ']' then .ok (.give (.array done.reverse) rest frames)
    else .error (.malformed .arraySeparator (c :: rest))
  | .afterMember done =>
    if c = ',' then .ok ⟨.token (.key done) .between, frames, rest⟩
    else if c = '\x7d' then .ok (.give (.object (Members.ofList done.reverse)) rest frames)
    else .error (.malformed .objectSeparator (c :: rest))
  | .nothing _ => .error (.malformed .trailingContent (c :: rest))

/-- What the end of the text is to a goal. -/
def Goal.meetEnd : Goal → Except Failure Data
  | .nothing v => .ok v
  | _ => .error (.malformed .unexpectedEnd [])

end

/-- One step. -/
def State.step (nestingLimit : Nat) (s : State) : Except Failure Move :=
  match s.task with
  | .token goal gap => do
    match ← gap.step s.unread with
    | (some gap, rest) => return .goes ⟨.token goal gap, s.frames, rest⟩
    | (none, c :: rest) => return .goes (← goal.meet nestingLimit s.frames c rest)
    | (none, []) => return .ends (← goal.meetEnd)
  | .string role opening mark done => do
    match ← spelling opening mark s.unread with
    | (some t, rest) => return .goes ⟨.string role opening mark (t ++ done), s.frames, rest⟩
    | (none, rest) => return .goes (role.close done.reverse rest s.frames)

/-! ## One step -/

theorem Stays.bind {α β : Type} {place : Text → Prop} {p : α → Prop} {q : β → Prop}
    {x : Except Failure α} {f : α → Except Failure β} (hx : Stays place p x)
    (hf : ∀ a, p a → Stays place q (f a)) : Stays place q (x >>= f) := by
  cases x with
  | error _ => exact hx
  | ok a => exact hf a hx

theorem Stays.imp {α : Type} {place place' : Text → Prop} {p : α → Prop} {x : Except Failure α}
    (hx : Stays place p x) (h : ∀ u, place u → place' u) : Stays place' p x := by
  cases x with
  | ok a => exact hx
  | error f =>
    cases f with
    | malformed problem unread => exact h unread hx
    | longNumeral _ | keyDigit | tooDeep => trivial

@[simp] theorem give_unread (v : Data) (unread : Text) (frames : List Frame) :
    (State.give v unread frames).unread = unread := by
  fun_induction State.give <;> trivial

@[simp] theorem give_opening (v : Data) (unread : Text) (frames : List Frame) :
    (State.give v unread frames).task.opening? = none := by
  fun_induction State.give <;> trivial

/-- A state that goes on behind the front of a text and speaks of no opening but that front. -/
def State.Behind (text : Text) (s : State) : Prop :=
  Past text s.unread ∧ ∀ opening ∈ s.task.opening?, opening = text

theorem State.behind_give {text unread : Text} (h : Past text unread) (v : Data)
    (frames : List Frame) : (State.give v unread frames).Behind text := by
  simpa [State.Behind] using h

section

variable (nestingLimit : Nat) (frames : List Frame) (c : CodePoint) (rest : Text)

theorem enter_stays :
    Stays (· <:+ c :: rest) (·.Behind (c :: rest)) (State.enter nestingLimit frames rest) := by
  unfold State.enter
  split
  · trivial
  · exact ⟨.of_cons List.suffix_rfl, nofun⟩

theorem beginValue_stays :
    Stays (· <:+ c :: rest) (·.Behind (c :: rest)) (beginValue nestingLimit frames c rest) := by
  have past : Past (c :: rest) rest := .of_cons List.suffix_rfl
  unfold beginValue
  split
  · exact ⟨past, nofun⟩
  split
  · exact ⟨past, nofun⟩
  split
  · exact ⟨past, by rintro _ ⟨⟩; rfl⟩
  split
  · exact enter_stays _ _ _ _
  split
  · exact (readNumber_stays _).bind fun (v, after) h => State.behind_give h v frames
  split
  · exact (readKeyword_stays _).bind fun (v, after) h => State.behind_give h v frames
  · exact List.suffix_rfl

/-- At a token, whatever is to come, some of the token is taken. -/
theorem Goal.meet_stays (goal : Goal) :
    Stays (· <:+ c :: rest) (·.Behind (c :: rest)) (goal.meet nestingLimit frames c rest) := by
  have past : Past (c :: rest) rest := .of_cons List.suffix_rfl
  cases goal with
  | value => exact beginValue_stays _ _ _ _
  | item done =>
    rw [Goal.meet]
    split
    · exact State.behind_give past _ _
    split
    · exact ⟨past, nofun⟩
    split
    · trivial
    · exact beginValue_stays _ _ _ _
  | key done =>
    rw [Goal.meet]
    split
    · exact State.behind_give past _ _
    split
    · exact ⟨past, by rintro _ ⟨⟩; rfl⟩
    next hc =>
      exact (readKey_stays (Bool.eq_false_iff.mpr hc) rest).bind fun (_, after) h => ⟨h, nofun⟩
  | colon done key =>
    rw [Goal.meet]
    split
    · exact List.suffix_rfl
    · exact enter_stays _ _ _ _
  | afterItem done | afterMember done =>
    rw [Goal.meet]
    split
    · exact ⟨past, nofun⟩
    split
    · exact State.behind_give past _ _
    · exact List.suffix_rfl
  | nothing v => exact List.suffix_rfl

end

/-- **One step** goes on behind the front of what is unread, and only at the end of the text ends
with a value. Neither the next state nor a failure speaks of a place that was not known. -/
theorem State.step_stays (nestingLimit : Nat) (s : State) :
    Stays s.Knows
      (fun move => match move with
        | .goes s' => Past s.unread s'.unread ∧ ∀ place, s'.Knows place → s.Knows place
        | .ends _ => s.unread = [])
      (s.step nestingLimit) := by
  obtain ⟨task, frames, text⟩ := s
  -- A state behind the front knows no more than one that has yet to read it.
  have behind {s s' : State} (h : s'.Behind s.unread) :
      Past s.unread s'.unread ∧ ∀ place, s'.Knows place → s.Knows place := by
    refine ⟨h.1, fun place hplace => .inl ?_⟩
    obtain hplace | hplace := hplace
    · exact hplace.trans h.1.1
    · exact h.2 place hplace ▸ List.suffix_rfl
  cases task with
  | token goal gap =>
    refine ((gap.step_stays text).imp fun _ => .inr).bind fun (on, rest) h => ?_
    match on, rest with
    | some on, rest =>
      obtain ⟨hpast, hopening⟩ := h
      refine ⟨hpast, fun place hplace => ?_⟩
      obtain hplace | hplace := hplace
      · exact .inl (hplace.trans hpast.1)
      · obtain rfl | hplace := hopening place hplace
        · exact .inl List.suffix_rfl
        · exact .inr hplace
    | none, c :: rest =>
      obtain rfl : c :: rest = text := h
      exact ((goal.meet_stays nestingLimit frames c rest).imp fun _ => .inl).bind
        fun _ h => behind h
    | none, [] =>
      obtain rfl : [] = text := h
      cases goal <;> first | rfl | exact .inl List.suffix_rfl
  | string role opening mark done =>
    refine ((spelling_stays opening mark text).imp ?_).bind fun (t, rest) h => ?_
    · rintro place (h | rfl)
      · exact .inl h
      · exact .inr rfl
    have hpast : Past text rest := h
    cases t with
    | some t => exact ⟨hpast, fun place hplace => hplace.imp_left (·.trans hpast.1)⟩
    | none =>
      cases role with
      | value => exact behind (State.behind_give hpast _ _)
      | key done => exact behind ⟨hpast, nofun⟩

/-! ## Runs -/

theorem State.past_of_goes {nestingLimit : Nat} {s s' : State}
    (h : s.step nestingLimit = .ok (.goes s')) : Past s.unread s'.unread := by
  have hstep := s.step_stays nestingLimit
  rw [h] at hstep
  exact hstep.1

/-- The machine until it stops. -/
def State.run (nestingLimit : Nat) (s : State) : Except Failure Data :=
  match _h : s.step nestingLimit with
  | .ok (.goes s') => s'.run nestingLimit
  | .ok (.ends v) => .ok v
  | .error f => .error f
termination_by s.unread.length
decreasing_by exact (State.past_of_goes _h).2

end TagAudit.Literal
