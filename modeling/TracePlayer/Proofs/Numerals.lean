import TracePlayer.Json.Token

/-!
# Numerals read back

A number that is written in decimal digits reads back as itself: as a field of a trace line whenever it is below the bound
of the field, and as a JSON number whenever it fits into 64 bits, with or without a sign. Behind a JSON number must not stand
what could go on with it.
-/

namespace TracePlayer.Text

variable {s : List Char} {c : Char} {n limit : Nat}

theorem toList_toString (n : Nat) : (toString n).toList = Nat.toDigits 10 n := by
  rw [Nat.toString_eq_ofList_toDigits, String.toList_ofList]

/-- A number of fixed width is its digits behind as many zeros as are wanting. -/
theorem toList_zeroPadded (width n : Nat) :
    (zeroPadded width n).toList = List.replicate (width - (Nat.toDigits 10 n).length) '0' ++ Nat.toDigits 10 n := by
  rw [zeroPadded, String.toList_append, String.toList_ofList, ← String.length_toList, toList_toString]

theorem isDigit_of_mem_toDigits (h : c ∈ Nat.toDigits 10 n) : c.isDigit = true :=
  Nat.isDigit_of_mem_toDigits (by decide) (by decide) h

/-- A numeral without a sign begins with a digit. -/
theorem toDigits_ne_cons (h : c.isDigit = false) : Nat.toDigits 10 n ≠ c :: s := by
  intro heq
  have hdigit : c.isDigit = true := isDigit_of_mem_toDigits (heq ▸ List.mem_cons_self)
  exact absurd (h.symm.trans hdigit) Bool.false_ne_true

theorem digit?_of_isDigit (h : c.isDigit = true) : digit? c = some (c.toNat - '0'.toNat) := by
  simp only [Char.isDigit, Bool.and_eq_true, decide_eq_true_eq] at h
  exact if_pos h

theorem digit?_of_not_isDigit (h : c.isDigit = false) : digit? c = none := by
  refine if_neg fun hdigit => ?_
  have hc : c.isDigit = true := by
    simp only [Char.isDigit, Bool.and_eq_true, decide_eq_true_eq]
    exact hdigit
  exact absurd hc (by rw [h]; exact Bool.false_ne_true)

theorem digitsFrom_of_isDigit (hs : ∀ c ∈ s, c.isDigit = true) (value : Nat) :
    digitsFrom value s = some (Nat.ofDigitChars 10 s value) := by
  induction s generalizing value with
  | nil => rfl
  | cons c rest ih =>
    obtain ⟨hc, hrest⟩ := List.forall_mem_cons.1 hs
    rw [digitsFrom, digit?_of_isDigit hc]
    exact ih hrest _

/-- The digits of a number are a numeral of it. -/
theorem digits?_toDigits (n : Nat) : digits? (Nat.toDigits 10 n) = some n := by
  have hempty : (Nat.toDigits 10 n).isEmpty = false := List.isEmpty_eq_false_iff.2 Nat.toDigits_ne_nil
  rw [digits?, hempty, if_neg Bool.false_ne_true, digitsFrom_of_isDigit (fun c => isDigit_of_mem_toDigits),
    Nat.ofDigitChars_ten_toDigits]

/-- The digits of a number below the limit read back as the number. -/
theorem readNatural_toDigits (h : n < limit) : readNatural limit (Nat.toDigits 10 n) = some n := by
  rw [readNatural, digits?_toDigits]
  · simp [h]
  · exact fun rest => toDigits_ne_cons (by decide)

/-- No number other than zero is written with a zero in front. -/
theorem head?_toDigits_ne_zero (h : n ≠ 0) : (Nat.toDigits 10 n).head? ≠ some '0' := by
  induction n using Nat.strongRecOn with
  | ind n ih =>
    by_cases hn : n < 10
    · rw [Nat.toDigits_of_lt_base hn]
      simpa using h
    · have hfirst := ih (n / 10) (by omega) (by omega)
      obtain ⟨c, rest, hc⟩ := List.exists_cons_of_ne_nil (Nat.toDigits_ne_nil (n := n / 10) (b := 10))
      rw [hc] at hfirst
      rw [Nat.toDigits_of_base_le (by decide) (Nat.le_of_not_lt hn), hc]
      exact hfirst

end TracePlayer.Text

namespace TracePlayer.Json

variable {s rest : List Char} {n : Nat}

/-- Behind a number stands nothing that could go on with it. -/
def EndsNumber (rest : List Char) : Prop :=
  ∀ c ∈ rest.head?, c.isDigit = false ∧ c ≠ '.' ∧ c ≠ 'e' ∧ c ≠ 'E'

theorem endsNumber_cons {c : Char} (h : c.isDigit = false ∧ c ≠ '.' ∧ c ≠ 'e' ∧ c ≠ 'E') (rest : List Char) :
    EndsNumber (c :: rest) := by
  rintro d hd
  cases hd
  exact h

/-- The digits at the front of a text end where something other than a digit begins. -/
theorem spanDigits_append (hs : ∀ c ∈ s, c.isDigit = true) (hrest : EndsNumber rest) :
    spanDigits (s ++ rest) = (s.map (fun c => c.toNat - '0'.toNat), rest) := by
  induction s with
  | nil =>
    cases rest with
    | nil => rfl
    | cons c rest =>
      have hc : Text.digit? c = none := Text.digit?_of_not_isDigit (hrest c rfl).1
      simp [spanDigits, hc]
  | cons c s ih =>
    obtain ⟨hc, hs⟩ := List.forall_mem_cons.1 hs
    have hspan := Prod.ext_iff.1 (ih hs)
    simp only [spanDigits] at hspan
    simp [spanDigits, Text.digit?_of_isDigit hc, hspan.1, hspan.2]

theorem le_ofDigitChars (s : List Char) (value : Nat) : value ≤ Nat.ofDigitChars 10 s value := by
  induction s generalizing value with
  | nil => exact Nat.le_refl value
  | cons c rest ih => exact Nat.le_trans (by omega) (ih (10 * value + (c.toNat - '0'.toNat)))

/-- Digits of a number below the bound are all kept. -/
theorem Significand.append_of_lt {value : Nat} (h : Nat.ofDigitChars 10 s value < wordBound) :
    Significand.append ⟨value, 0⟩ (s.map (fun c => c.toNat - '0'.toNat)) = ⟨Nat.ofDigitChars 10 s value, 0⟩ := by
  induction s generalizing value with
  | nil => rfl
  | cons c rest ih =>
    have hfits : 10 * value + (c.toNat - '0'.toNat) < wordBound := Nat.lt_of_le_of_lt (le_ofDigitChars rest _) h
    rw [append, List.map_cons, List.foldl_cons, if_pos ⟨rfl, hfits⟩]
    exact ih h

/-- The digits of a number, as values: there is one at least, and a zero stands in front only when it is the only one. -/
theorem digits_toDigits (n : Nat) :
    ∃ d digits, (Nat.toDigits 10 n).map (fun c => c.toNat - '0'.toNat) = d :: digits ∧ (d = 0 → digits = []) := by
  obtain ⟨c, cs, hc⟩ := List.exists_cons_of_ne_nil (Nat.toDigits_ne_nil (n := n) (b := 10))
  refine ⟨c.toNat - '0'.toNat, cs.map (fun c => c.toNat - '0'.toNat), by rw [hc]; rfl, fun hzero => ?_⟩
  by_cases hn : n = 0
  · rw [hn, Nat.toDigits_zero] at hc
    rw [← (List.cons.inj hc).2]
    rfl
  · have hdigit : c.isDigit = true := Text.isDigit_of_mem_toDigits (hc ▸ List.mem_cons_self)
    have hc0 : c ≠ '0' := by
      rintro rfl
      exact Text.head?_toDigits_ne_zero hn (by rw [hc]; rfl)
    simp only [Char.isDigit, Bool.and_eq_true, decide_eq_true_eq] at hdigit
    have hval : c.toNat = '0'.toNat := Nat.le_antisymm (Nat.le_of_sub_eq_zero hzero) hdigit.1
    exact absurd (Char.toNat_inj.1 hval) hc0

/-- Digits that are followed by nothing that belongs to them are a whole number. -/
theorem readMagnitude_toDigits (negative : Bool) (h : n < wordBound) (hrest : EndsNumber rest) :
    readMagnitude negative (Nat.toDigits 10 n ++ rest) =
      if !negative then .ok (.integer n, rest)
      else if 0 < n ∧ n ≤ signedBound then .ok (.integer (-(n : Int)), rest)
      else finishDouble negative n 0 rest := by
  have hkept : Significand.append ⟨0, 0⟩ ((Nat.toDigits 10 n).map (fun c => c.toNat - '0'.toNat)) = ⟨n, 0⟩ := by
    rw [Significand.append_of_lt (by rwa [Nat.ofDigitChars_ten_toDigits]), Nat.ofDigitChars_ten_toDigits]
  rw [readMagnitude, spanDigits_append (fun c => Text.isDigit_of_mem_toDigits) hrest]
  obtain ⟨d, digits, hd, hzero⟩ := digits_toDigits n
  rw [hd] at hkept ⊢
  split
  · rename_i heq
    cases heq
  · rename_i heq
    cases heq
  · rename_i heq
    cases heq
    cases hzero rfl
  · rename_i heq
    cases heq
    rw [hkept]
    split
    · exact absurd rfl (hrest '.' rfl).2.1
    · exact absurd rfl (hrest 'e' rfl).2.2.1
    · exact absurd rfl (hrest 'E' rfl).2.2.2
    · rfl

/-- An integer of 64 bits, with or without a sign, reads back as itself. -/
theorem readNumber_toString {k : Int} (hlow : -(signedBound : Int) ≤ k) (hhigh : k < wordBound) (hrest : EndsNumber rest) :
    readNumber ((toString k).toList ++ rest) = .ok (.integer k, rest) := by
  rw [Int.toString_eq_repr, Int.repr_eq_if]
  split
  · rename_i hk
    have hbound : k.toNat < wordBound := by omega
    rw [Nat.repr_eq_ofList_toDigits, String.toList_ofList, readNumber, readMagnitude_toDigits false hbound hrest]
    · rw [if_pos (by decide), Int.toNat_of_nonneg hk]
    · intro tail heq
      obtain ⟨c, cs, hc⟩ := List.exists_cons_of_ne_nil (Nat.toDigits_ne_nil (n := k.toNat) (b := 10))
      rw [hc, List.cons_append] at heq
      rw [(List.cons.inj heq).1] at hc
      exact Text.toDigits_ne_cons (by decide) hc
  · rename_i hk
    have hbound : (-k).toNat ≤ signedBound := by omega
    have hword : (-k).toNat < wordBound := Nat.lt_of_le_of_lt hbound (by decide)
    have hvalue : -((-k).toNat : Int) = k := by omega
    rw [Nat.repr_eq_ofList_toDigits, String.toList_append, String.toList_ofList, String.toList_ofList, List.append_assoc,
      List.singleton_append, readNumber, readMagnitude_toDigits true hword hrest, if_neg (by decide),
      if_pos ⟨by omega, hbound⟩, hvalue]

/-- The text of an integer is a minus sign at most, and digits. -/
theorem of_mem_toString {k : Int} {c : Char} (h : c ∈ (toString k).toList) : c = '-' ∨ c.isDigit = true := by
  rw [Int.toString_eq_repr, Int.repr_eq_if] at h
  split at h
  · rw [Nat.repr_eq_ofList_toDigits, String.toList_ofList] at h
    exact Or.inr (Text.isDigit_of_mem_toDigits h)
  · rw [Nat.repr_eq_ofList_toDigits, String.toList_append, String.toList_ofList, String.toList_ofList] at h
    rcases List.mem_append.1 h with h | h
    · exact Or.inl (List.mem_singleton.1 h)
    · exact Or.inr (Text.isDigit_of_mem_toDigits h)

theorem toString_ne_nil (k : Int) : (toString k).toList ≠ [] := by
  rw [Int.toString_eq_repr, Int.repr_eq_if]
  split
  · rw [Nat.repr_eq_ofList_toDigits, String.toList_ofList]
    exact Nat.toDigits_ne_nil
  · rw [String.toList_append, String.toList_ofList]
    exact List.cons_ne_nil _ _

end TracePlayer.Json
