import Mathlib.Data.List.Basic
import TagAudit.Proofs.Json.Reading
import TagAudit.Proofs.Literal.Reading

/-!
# Strict JSON as literals

Every token of JSON is a token of literals as well, with the same value but for one thing: literals
know nothing of surrogate pairs. So a text of strict JSON is a literal, and it has the value that it
has as JSON, with the halves of escaped pairs kept apart.

* `Body.stringBody`, `Number.literal`: strings and numbers.
* `Value.literal`: values of any dialect that keeps halves apart.
* `Value.exists_halved`: strict JSON is spelled in such a dialect.
* `read_strict`: what both readers make of strict JSON.
-/

namespace TagAudit.Json

open Literal (Escape StringBody IsGap IsDecimalRun Exponent Unsigned)

/-! ## Tokens -/

theorem IsBlanks.isGap {blanks : Text} (h : IsBlanks blanks) : IsGap blanks := by
  induction blanks with
  | nil => exact .nil
  | cons c blanks ih =>
    have hc : Literal.isBlank c = true := by
      rcases isBlank_iff.mp (h c List.mem_cons_self) with rfl | rfl | rfl | rfl <;> decide
    exact .blank hc (ih fun d hd => h d (List.mem_cons_of_mem c hd))

/-- What stands behind a backslash is the same code point to both readers. -/
theorem escape_of_mem {e c : CodePoint} (h : (e, c) ∈ escapes) : Escape [e] [c] := by
  have hitself {c : CodePoint} (hc : c = '"' ∨ c = '\\' ∨ c = '/') : Escape [c] [c] := by
    refine .itself (fun d hd => ?_) ?_ ?_ ?_
    · have hmem : c ∈ Literal.controlEscapes.map (·.1) := List.mem_map_of_mem hd
      revert hmem
      rcases hc with rfl | rfl | rfl <;> decide
    all_goals rcases hc with rfl | rfl | rfl <;> decide
  simp only [escapes, List.mem_cons, Prod.mk.injEq, List.not_mem_nil, or_false] at h
  obtain ⟨rfl, rfl⟩ | ⟨rfl, rfl⟩ | ⟨rfl, rfl⟩ | ⟨rfl, rfl⟩ | ⟨rfl, rfl⟩ | ⟨rfl, rfl⟩ | ⟨rfl, rfl⟩ |
    ⟨rfl, rfl⟩ := h
  · exact hitself (.inl rfl)
  · exact hitself (.inr (.inl rfl))
  · exact hitself (.inr (.inr rfl))
  all_goals exact .control (by decide)

theorem Spelling.stringBody_cons {s : Text} {l : Letter} (h : Spelling s l) {rest t : Text}
    (hrest : StringBody '"' rest t) : StringBody '"' (s ++ rest) (l.code :: t) := by
  cases h with
  | @plain c hquote hescape hlow =>
    have hline : c ≠ '\n' := by
      rintro rfl
      exact absurd hlow (by decide)
    exact .plain hquote hescape hline hrest
  | escape hmem => exact .escape (escape_of_mem hmem) hrest
  | number h₁ h₂ h₃ h₄ hc => exact .escape (.long h₁ h₂ h₃ h₄ hc) hrest

/-- **Strings.** A literal keeps every letter for itself. -/
theorem Body.stringBody_apart {s : Text} {letters : List Letter} (h : Body s letters) :
    StringBody '"' s (apart letters) := by
  induction h with
  | nil => exact .nil
  | cons hs _ ih => exact hs.stringBody_cons ih

theorem IsDigits.isDecimalRun {s : Text} (h : IsDigits s) : IsDecimalRun s := by
  intro c hc
  rw [CodePoint.isDecimal, h c hc, Bool.true_or]

theorem Minus.sign {s : Text} {negative : Bool} (h : Minus s negative) :
    Literal.Sign s negative := by
  cases h with
  | none => exact .none
  | minus => exact .minus

theorem Power.exponent {s : Text} {power : Int} (h : Power s (Option.some power)) :
    Exponent s power := by
  cases h with
  | some hmark hsign hdigits hne => exact .mk hmark hsign hdigits.isDecimalRun hne

/-- Digits with a fraction or an exponent behind them. -/
theorem unsigned_scaled {digits fraction places exponent : Text} {power : Option Int}
    (hdigits : IsWhole digits) (hfraction : Fraction fraction places)
    (hexponent : Power exponent power) (hne : places ≠ [] ∨ power ≠ none) :
    Unsigned (digits ++ (fraction ++ exponent)) (.scaled (Literal.digitValues digits)
      (Literal.digitValues places) (power.getD 0)) := by
  have hrun := hdigits.digits.isDecimalRun
  cases hfraction with
  | none =>
    cases power with
    | none => exact absurd rfl (hne.resolve_left (fun h => h rfl))
    | some power => exact .raised hrun hdigits.ne_nil hexponent.exponent
  | @some places hplaces hne' =>
    have hend : exponent = [] ∧ power.getD 0 = 0 ∨ Exponent exponent (power.getD 0) := by
      cases power with
      | some power => exact .inr hexponent.exponent
      | none =>
        cases hexponent
        exact .inl ⟨rfl, rfl⟩
    exact .pointed hrun hplaces.isDecimalRun (.inl hdigits.ne_nil) hend

/-- **Numbers** are the same to both readers. -/
theorem Number.literal {s : Text} {v : Data} (h : Number s v) : Literal.Number s v := by
  cases h with
  | whole hminus hdigits hlong =>
    refine .mk hminus.sign (.whole hdigits.digits.isDecimalRun hdigits.ne_nil) (.whole ?_)
    rwa [length_digitValues]
  | @real minus digits fraction places exponent negative power hminus hdigits hfraction hexponent
      hne =>
    rw [← length_digitValues places]
    exact .mk hminus.sign (unsigned_scaled hdigits hfraction hexponent hne) .scaled

/-! ## Values -/

/-- A dialect that literals contain: its words are keywords, and letters stand for themselves. -/
structure Dialect.Plain (d : Dialect) : Prop where
  words : ∀ p ∈ d.words, p ∈ Literal.keywords
  denotes : ∀ letters t, d.Denotes letters t → t = apart letters

section

variable {d : Dialect} {Item Item' : Text → Data → Prop}
  (hitem : ∀ {s : Text} {v : Data}, Item s v → Item' s v)

include hitem

theorem Items.literal {s : Text} {items : List Data} (h : Items Item s items) {gap : Text}
    (hgap : IsGap gap) : Literal.Items Item' (gap ++ s) items := by
  induction h generalizing gap with
  | last hs hafter => exact .last hgap (hitem hs) hafter.isGap
  | item hs hafter hbefore _ ih =>
    exact .item hgap (hitem hs) hafter.isGap (ih hbefore.isGap)

theorem Entries.literal (hd : d.Plain) {s : Text} {entries : List (Text × Data)}
    (h : Entries d Item s entries) {gap : Text} (hgap : IsGap gap) :
    Literal.Entries Item' (gap ++ s) entries := by
  have hkey {k key : Text} {letters : List Letter} (hk : Body k letters)
      (hdenotes : d.Denotes letters key) :
      Literal.Key ('"' :: (k ++ [('"' : CodePoint)])) key := by
    rw [hd.denotes letters key hdenotes]
    exact .quoted (by decide) hk.stringBody_apart
  induction h generalizing gap with
  | last he hafter =>
    obtain ⟨hk, hdenotes, hafterKey, hbefore, hs⟩ := he
    have := Literal.Entries.last hgap (hkey hk hdenotes) hafterKey.isGap hbefore.isGap (hitem hs)
      hafter.isGap
    simpa using this
  | member he hafter hbefore' _ ih =>
    obtain ⟨hk, hdenotes, hafterKey, hbefore, hs⟩ := he
    have := Literal.Entries.member hgap (hkey hk hdenotes) hafterKey.isGap hbefore.isGap (hitem hs)
      hafter.isGap (ih hbefore'.isGap)
    simpa using this

theorem Form.literal (hd : d.Plain) {s : Text} {v : Data} (h : Form d Item s v) :
    Literal.Form Item' s v := by
  cases h with
  | @text s t letters hs ht =>
    rw [hd.denotes letters t ht]
    exact .text (by decide) hs.stringBody_apart
  | number h => exact .number h.literal
  | word h => exact .keyword (hd.words _ h)
  | emptyArray hblanks => exact .array (.close hblanks.isGap)
  | array hblanks hitems => exact .array (hitems.literal hitem hblanks.isGap)
  | emptyObject hblanks =>
    exact .object (.close hblanks.isGap) (Members.merged_iff.mpr rfl)
  | object hblanks hentries hmembers =>
    exact .object (hentries.literal hitem hd hblanks.isGap) hmembers

end

/-- **Values** of a dialect that literals contain. -/
theorem Value.literal {d : Dialect} (hd : d.Plain) (depth : Nat) {s : Text} {v : Data}
    (h : Value d depth s v) : Literal.Value depth s v := by
  induction depth generalizing s v with
  | zero => exact h.elim
  | succ depth ih => exact Form.literal ih hd h

theorem Renders.literal {d : Dialect} (hd : d.Plain) {depth : Nat} {text : Text} {v : Data}
    (h : Renders d depth text v) : Literal.Renders depth text v := by
  obtain ⟨before, s, after, rfl, hbefore, hs, hafter⟩ := h
  exact ⟨before, s, after, rfl, hbefore.isGap, hs.literal hd, .gap hafter.isGap⟩

theorem constants_subset : ∀ p ∈ constants, p ∈ Literal.keywords := by
  intro p hp
  simp only [constants, List.mem_cons, List.not_mem_nil, or_false] at hp
  obtain rfl | rfl | rfl := hp <;> simp [Literal.keywords]

theorem Dialect.halved_plain : Dialect.halved.Plain := ⟨constants_subset, fun _ _ h => h⟩

/-- Without pairs there is nothing to join. -/
theorem joined_eq_apart {letters : List Letter} (h : Unpaired letters) :
    joined letters = apart letters := by
  induction letters with
  | nil => rfl
  | cons l letters ih =>
    have htail : Unpaired letters := fun front high low back hletters =>
      h (l :: front) high low back (by rw [hletters]; rfl)
    cases letters with
    | nil => rfl
    | cons low rest =>
      rw [joined_cons_cons, h [] l low rest rfl, ih htail]
      rfl

theorem Dialect.unpaired_plain : Dialect.unpaired.Plain :=
  ⟨constants_subset, fun _ _ h => h.1.trans (joined_eq_apart h.2)⟩

/-! ## Strict JSON with its halves kept apart -/

section

variable {Item Item' : Text → Data → Prop} (hitem : ∀ s v, Item s v → ∃ u, Item' s u)

include hitem

theorem Items.exists_halved {s : Text} {items : List Data} (h : Items Item s items) :
    ∃ items', Items Item' s items' := by
  induction h with
  | last hs hafter =>
    obtain ⟨u, hu⟩ := hitem _ _ hs
    exact ⟨_, .last hu hafter⟩
  | item hs hafter hbefore _ ih =>
    obtain ⟨u, hu⟩ := hitem _ _ hs
    obtain ⟨items, hitems⟩ := ih
    exact ⟨_, .item hu hafter hbefore hitems⟩

theorem Entry.exists_halved {s : Text} {e : Text × Data} (h : Entry .strict Item s e) :
    ∃ e', Entry .halved Item' s e' := by
  obtain ⟨hk, -, hafterKey, hbefore, hs⟩ := h
  obtain ⟨u, hu⟩ := hitem _ _ hs
  exact ⟨_, .mk hk rfl hafterKey hbefore hu⟩

theorem Entries.exists_halved {s : Text} {entries : List (Text × Data)}
    (h : Entries .strict Item s entries) : ∃ entries', Entries .halved Item' s entries' := by
  induction h with
  | last he hafter =>
    obtain ⟨e, he⟩ := he.exists_halved hitem
    exact ⟨_, .last he hafter⟩
  | member he hafter hbefore _ ih =>
    obtain ⟨e, he⟩ := he.exists_halved hitem
    obtain ⟨entries, hentries⟩ := ih
    exact ⟨_, .member he hafter hbefore hentries⟩

theorem Form.exists_halved {s : Text} {v : Data} (h : Form .strict Item s v) :
    ∃ u, Form .halved Item' s u := by
  cases h with
  | text hs _ => exact ⟨_, .text hs rfl⟩
  | number h => exact ⟨_, .number h⟩
  | word h => exact ⟨_, .word h⟩
  | emptyArray hblanks => exact ⟨_, .emptyArray hblanks⟩
  | array hblanks hitems =>
    obtain ⟨items, hitems⟩ := hitems.exists_halved hitem
    exact ⟨_, .array hblanks hitems⟩
  | emptyObject hblanks => exact ⟨_, .emptyObject hblanks⟩
  | object hblanks hentries _ =>
    obtain ⟨entries, hentries⟩ := hentries.exists_halved hitem
    exact ⟨_, .object hblanks hentries (Members.merged_iff.mpr rfl)⟩

end

theorem Value.exists_halved (depth : Nat) {s : Text} {v : Data} (h : Value .strict depth s v) :
    ∃ u, Value .halved depth s u := by
  induction depth generalizing s v with
  | zero => exact h.elim
  | succ depth ih => exact Form.exists_halved (fun _ _ hs => ih hs) h

theorem Renders.exists_halved {depth : Nat} {text : Text} {v : Data}
    (h : Renders .strict depth text v) : ∃ u, Renders .halved depth text u := by
  obtain ⟨before, s, after, rfl, hbefore, hs, hafter⟩ := h
  obtain ⟨u, hu⟩ := hs.exists_halved
  exact ⟨u, before, s, after, rfl, hbefore, hu, hafter⟩

theorem Dialect.constants_within {p : Text × Data} (h : p ∈ constants) : p ∈ Json.words := by
  simp only [constants, List.mem_cons, List.not_mem_nil, or_false] at h
  obtain rfl | rfl | rfl := h <;> simp [Json.words]

theorem Dialect.strict_within : Dialect.strict.Within .extended :=
  ⟨fun _ h => constants_within h, fun _ _ h => h⟩

theorem Dialect.unpaired_within : Dialect.unpaired.Within .strict :=
  ⟨fun _ h => h, fun _ _ h => h.1⟩

end TagAudit.Json

namespace TagAudit.Literal

/-- **Strict JSON.** A text of strict JSON, nested no deeper than the reader of literals allows, is
read by both readers. The reader of JSON joins the halves of escaped surrogate pairs, and the reader
of literals keeps them apart; where no pair is escaped, they give the same value. -/
theorem read_strict (text : Text) (v : Data) :
    (Json.Renders .strict depthLimit text v →
      Json.read text = .ok v ∧ ∃ u, Json.Renders .halved depthLimit text u ∧ read text = .ok u) ∧
    (Json.Renders .unpaired depthLimit text v → Json.read text = .ok v ∧ read text = .ok v) := by
  have hlimit : depthLimit ≤ Json.depthLimit := by decide
  have hjson {v : Data} (h : Json.Renders .strict depthLimit text v) : Json.read text = .ok v :=
    (h.mono Json.Dialect.strict_within hlimit).read_eq_ok
  refine ⟨fun h => ⟨hjson h, ?_⟩, fun h => ⟨?_, ?_⟩⟩
  · obtain ⟨u, hu⟩ := h.exists_halved
    exact ⟨u, hu, (hu.literal Json.Dialect.halved_plain).read_eq_ok⟩
  · exact hjson (h.mono Json.Dialect.unpaired_within (Nat.le_refl _))
  · exact (h.literal Json.Dialect.unpaired_plain).read_eq_ok

/-- One escaped surrogate pair is one code point as JSON, and two as a literal. -/
theorem read_surrogatePair :
    Json.Renders .strict depthLimit "\"\\ud83d\\ude00\"" (.text ['😀']) ∧
      Json.read "\"\\ud83d\\ude00\"" = .ok (.text ['😀']) ∧
      read "\"\\ud83d\\ude00\"" =
        .ok (.text [CodePoint.ofNat 0xD83D, CodePoint.ofNat 0xDE00]) := by
  refine ⟨?_, ?_, ?_⟩
  · have hhigh : Json.Spelling "\\ud83d" ⟨CodePoint.ofNat 0xD83D, true⟩ :=
      .number rfl rfl rfl rfl rfl
    have hlow : Json.Spelling "\\ude00" ⟨CodePoint.ofNat 0xDE00, true⟩ :=
      .number rfl rfl rfl rfl rfl
    have hblanks : Json.IsBlanks [] := by simp [Json.IsBlanks]
    have hjoined : (['😀'] : Text) =
        Json.joined [⟨CodePoint.ofNat 0xD83D, true⟩, ⟨CodePoint.ofNat 0xDE00, true⟩] := by decide
    have hvalue : Json.Value .strict 1 "\"\\ud83d\\ude00\"" (.text ['😀']) :=
      Json.Form.text (.cons hhigh (.cons hlow .nil)) hjoined
    have hflat : Json.Renders .strict 1 "\"\\ud83d\\ude00\"" (.text ['😀']) :=
      ⟨[], _, [], rfl, hblanks, hvalue, hblanks⟩
    exact hflat.mono ⟨fun _ h => h, fun _ _ h => h⟩ (by decide)
  · cbv
  · cbv

end TagAudit.Literal
