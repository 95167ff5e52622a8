import Mathlib.Data.List.TakeWhile
import TagAudit.Text.Utf8

/-!
# Texts in UTF-8

A text without surrogates can be written in UTF-8, and its octets are read as this very text.

* `Text.IsEncodable`: a text without surrogates.
* `encode_eq_error_iff`, `encode_eq_ok_iff`: which texts can be written.
* `piecesFrom_tail`, `piecesFrom_last`: octets behind the first of a code point.
* `piecesFrom_octetsOf`: all octets of a code point.
* `decode?_encode`: a text that can be written is read again.
-/

namespace TagAudit

/-- A text without surrogates, which are the only code points that have no encoding. -/
def Text.IsEncodable (t : Text) : Prop := ∀ c ∈ t, c.isSurrogate = false

instance (t : Text) : Decidable t.IsEncodable := inferInstanceAs (Decidable (∀ c ∈ t, _))

theorem Text.isEncodable_append {s t : Text} :
    (s ++ t).IsEncodable ↔ s.IsEncodable ∧ t.IsEncodable := List.forall_mem_append

theorem Text.isEncodable_iff {t : Text} :
    t.IsEncodable ↔ ∀ c : CodePoint, c.isSurrogate = true → c ∉ t := by
  constructor
  · intro h c hc hmem
    rw [h c hmem] at hc
    cases hc
  · intro h c hmem
    exact Bool.eq_false_iff.mpr fun hc => h c hc hmem

namespace Utf8

/-! ## Writing -/

theorem surrogates?_eq_none_iff {t : Text} :
    surrogates? t = none ↔ ∀ c ∈ t, c.isSurrogate = false := by
  let plain (c : CodePoint) := !c.isSurrogate
  have hdrop : t.drop (t.takeWhile plain).length = t.dropWhile plain := by
    have hleft : (t.takeWhile plain ++ t.dropWhile plain).drop (t.takeWhile plain).length =
        t.dropWhile plain := List.drop_left
    rwa [List.takeWhile_append_dropWhile] at hleft
  have hrest : t.dropWhile plain = [] ↔ ∀ c ∈ t, c.isSurrogate = false := by
    simp [List.dropWhile_eq_nil_iff, plain]
  rw [← hrest]
  unfold surrogates?
  dsimp only
  rw [hdrop]
  cases hfound : t.dropWhile plain with
  | nil => simp
  | cons c rest =>
    have hc : c.isSurrogate = true := by
      have hhead := List.head?_dropWhile_not plain t
      rw [hfound] at hhead
      simpa [plain] using hhead
    simp [hc]

theorem encode_eq_error_iff {t : Text} :
    (∃ fault, encode t = .error fault) ↔ ∃ c ∈ t, c.isSurrogate = true := by
  unfold encode
  cases h : surrogates? t with
  | none =>
    have hplain := surrogates?_eq_none_iff.mp h
    refine iff_of_false (fun ⟨_, hfault⟩ => nomatch hfault) ?_
    rintro ⟨c, hc, hsurrogate⟩
    rw [hplain c hc] at hsurrogate
    cases hsurrogate
  | some fault =>
    refine iff_of_true ⟨fault, rfl⟩ ?_
    by_contra hnone
    have hplain : ∀ c ∈ t, c.isSurrogate = false := fun c hc =>
      Bool.eq_false_iff.mpr fun hsurrogate => hnone ⟨c, hc, hsurrogate⟩
    rw [surrogates?_eq_none_iff.mpr hplain] at h
    cases h

theorem encode_eq_ok_iff {t : Text} {octets : Octets} :
    encode t = .ok octets ↔ (∀ c ∈ t, c.isSurrogate = false) ∧ octets = t.flatMap octetsOf := by
  unfold encode
  rw [← surrogates?_eq_none_iff]
  cases surrogates? t <;> simp [eq_comm]

theorem kind_of_encode_eq_error {t : Text} {fault : Fault} (h : encode t = .error fault) :
    fault.kind = .encoding := by
  unfold encode surrogates? at h
  dsimp only at h
  split at h
  case h_2 => cases h
  case h_1 found hfound =>
    cases h
    split at hfound
    · cases hfound
    · cases hfound
      rfl

/-! ## Reading -/

theorem toNat_octet {n : Nat} (h : n < 0x100) : (UInt8.ofNat n).toNat = n := by
  rw [UInt8.toNat_ofNat']
  exact Nat.mod_eq_of_lt h

/-- An octet that begins a code point. -/
theorem piecesFrom_lead {n : Nat} (hn : n < 0x100) {more low high begun : Nat}
    (h : readLead n = (none, .tail more low high begun)) (done : List (Option CodePoint))
    (rest : Octets) :
    piecesFrom .lead done (UInt8.ofNat n :: rest) =
      piecesFrom (.tail more low high begun) done rest := by
  rw [piecesFrom]
  simp only [toNat_octet hn, h]

/-- An octet inside a code point. -/
theorem piecesFrom_tail {n more low high begun : Nat} (hn : n < 0x40) (hlow : low ≤ 0x80 + n)
    (hhigh : 0x80 + n ≤ high) (hmore : 1 < more) (done : List (Option CodePoint)) (rest : Octets) :
    piecesFrom (.tail more low high begun) done (UInt8.ofNat (0x80 + n) :: rest) =
      piecesFrom (.tail (more - 1) 0x80 0xBF (begun * 0x40 + n)) done rest := by
  have hrange : (decide (low ≤ 0x80 + n) && decide (0x80 + n ≤ high)) = true := by
    simp [hlow, hhigh]
  rw [piecesFrom]
  simp only [toNat_octet (show 0x80 + n < 0x100 by omega), hrange, if_true,
    if_neg (Nat.not_le.mpr hmore), Nat.add_sub_cancel_left]

/-- The last octet of a code point. -/
theorem piecesFrom_last {n low high begun : Nat} (hn : n < 0x40) (hlow : low ≤ 0x80 + n)
    (hhigh : 0x80 + n ≤ high) (done : List (Option CodePoint)) (rest : Octets) :
    piecesFrom (.tail 1 low high begun) done (UInt8.ofNat (0x80 + n) :: rest) =
      piecesFrom .lead (some (CodePoint.ofNat (begun * 0x40 + n)) :: done) rest := by
  have hrange : (decide (low ≤ 0x80 + n) && decide (0x80 + n ≤ high)) = true := by
    simp [hlow, hhigh]
  rw [piecesFrom]
  simp only [toNat_octet (show 0x80 + n < 0x100 by omega), hrange, if_true, Nat.le_refl,
    Nat.add_sub_cancel_left]

theorem readLead_two {n : Nat} (hlow : 0x80 ≤ n) (hhigh : n < 0x800) :
    readLead (0xC0 + n / 0x40) = (none, .tail 1 0x80 0xBF (n / 0x40)) := by
  unfold readLead
  rw [if_neg (by omega), if_neg (by omega), if_pos (by omega), Nat.add_sub_cancel_left]

/-- Three octets: the second has bounds of its own behind the first and where surrogates would
be. -/
theorem readLead_three {n : Nat} (hlow : 0x800 ≤ n) (hhigh : n < 0x10000)
    (hsurrogate : n < 0xD800 ∨ 0xDFFF < n) :
    ∃ low high, readLead (0xE0 + n / 0x1000) = (none, .tail 2 low high (n / 0x1000)) ∧
      low ≤ 0x80 + n / 0x40 % 0x40 ∧ 0x80 + n / 0x40 % 0x40 ≤ high := by
  unfold readLead
  rw [if_neg (by omega), if_neg (by omega), if_neg (by omega)]
  split
  case isTrue h => exact ⟨0xA0, 0xBF, by rw [show n / 0x1000 = 0 by omega], by omega, by omega⟩
  split
  case isTrue h => exact ⟨0x80, 0x9F, by rw [show n / 0x1000 = 0xD by omega], by omega, by omega⟩
  case isFalse =>
    rw [if_pos (by omega), Nat.add_sub_cancel_left]
    exact ⟨0x80, 0xBF, rfl, by omega, by omega⟩

/-- Four octets: the second has bounds of its own behind the first and behind the last. -/
theorem readLead_four {n : Nat} (hlow : 0x10000 ≤ n) (hhigh : n < 0x110000) :
    ∃ low high, readLead (0xF0 + n / 0x40000) = (none, .tail 3 low high (n / 0x40000)) ∧
      low ≤ 0x80 + n / 0x1000 % 0x40 ∧ 0x80 + n / 0x1000 % 0x40 ≤ high := by
  unfold readLead
  rw [if_neg (by omega), if_neg (by omega), if_neg (by omega), if_neg (by omega), if_neg (by omega),
    if_neg (by omega)]
  split
  case isTrue h => exact ⟨0x90, 0xBF, by rw [show n / 0x40000 = 0 by omega], by omega, by omega⟩
  split
  case isTrue h =>
    rw [Nat.add_sub_cancel_left]
    exact ⟨0x80, 0xBF, rfl, by omega, by omega⟩
  case isFalse =>
    rw [if_pos (by omega)]
    exact ⟨0x80, 0x8F, by rw [show n / 0x40000 = 4 by omega], by omega, by omega⟩

/-- **One code point.** -/
theorem piecesFrom_octetsOf {c : CodePoint} (h : c.isSurrogate = false)
    (done : List (Option CodePoint)) (rest : Octets) :
    piecesFrom .lead done (octetsOf c ++ rest) = piecesFrom .lead (some c :: done) rest := by
  obtain ⟨n, hn⟩ := c
  have whole {m : Nat} (hm : m = n) : CodePoint.ofNat m = ⟨n, hn⟩ := by
    subst hm
    exact CodePoint.ext (CodePoint.val_ofNat hn)
  have hmod (m : Nat) : m % 0x40 < 0x40 := Nat.mod_lt _ (by decide)
  unfold octetsOf
  dsimp only
  split
  case isTrue hone =>
    rw [List.singleton_append, piecesFrom]
    simp only [toNat_octet (show n < 0x100 by omega), readLead, if_pos hone, whole rfl]
  split
  case isTrue htwo =>
    rw [List.cons_append, List.singleton_append,
      piecesFrom_lead (by omega) (readLead_two (by omega) htwo),
      piecesFrom_last (hmod _) (by omega) (by omega), whole (by omega)]
  split
  case isTrue hthree =>
    have hsurrogate : n < 0xD800 ∨ 0xDFFF < n := by
      simp only [CodePoint.isSurrogate, Bool.and_eq_false_iff, decide_eq_false_iff_not] at h
      omega
    obtain ⟨low, high, hlead, hlow, hhigh⟩ := readLead_three (by omega) hthree hsurrogate
    rw [List.cons_append, List.cons_append, List.singleton_append, piecesFrom_lead (by omega) hlead,
      piecesFrom_tail (hmod _) hlow hhigh (by decide),
      piecesFrom_last (hmod _) (by omega) (by omega), whole (by omega)]
  case isFalse hfour =>
    obtain ⟨low, high, hlead, hlow, hhigh⟩ := readLead_four (by omega) hn
    rw [List.cons_append, List.cons_append, List.cons_append, List.singleton_append,
      piecesFrom_lead (by omega) hlead, piecesFrom_tail (hmod _) hlow hhigh (by decide),
      piecesFrom_tail (hmod _) (by omega) (by omega) (by decide),
      piecesFrom_last (hmod _) (by omega) (by omega), whole (by omega)]

theorem piecesFrom_text {t : Text} (h : ∀ c ∈ t, c.isSurrogate = false)
    (done : List (Option CodePoint)) :
    piecesFrom .lead done (t.flatMap octetsOf) = done.reverse ++ t.map some := by
  induction t generalizing done with
  | nil =>
    rw [List.flatMap_nil, piecesFrom]
    simp
  | cons c t ih =>
    obtain ⟨hc, ht⟩ := List.forall_mem_cons.mp h
    rw [List.flatMap_cons, piecesFrom_octetsOf hc, ih ht]
    simp

/-- Without malformed pieces, the pieces are the text. -/
theorem mapM_map_some (t : Text) : (t.map some).mapM id = some t := by
  induction t with
  | nil => rfl
  | cons c t ih => simp [ih]

/-- **A round trip.** What was written is read again. -/
theorem decode?_encode {t : Text} {octets : Octets} (h : encode t = .ok octets) :
    decode? octets = some t := by
  obtain ⟨hplain, rfl⟩ := encode_eq_ok_iff.mp h
  rw [decode?, pieces, piecesFrom_text hplain, List.reverse_nil, List.nil_append, mapM_map_some]

end Utf8

end TagAudit
