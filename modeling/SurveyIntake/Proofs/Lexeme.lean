import SurveyIntake.Json.Printer
import SurveyIntake.Json.Reader

/-!
# SurveyIntake.Proofs.Lexeme

Strings and integers are read back as they are printed.

* `Lexeme.escapeChar_cases`  — a character is printed as it is, or as an escape that stands for it.
* `Lexeme.stringTail_quoted` — a string is read back from what follows its opening mark.
* `Lexeme.foldl_whole_toDigits` — reading the digits of a number gives the number.
* `Lexeme.number_integer`    — an integer of 64 bits is read back from its text, where no more of a number follows.
-/

namespace SurveyIntake
namespace Json
namespace Lexeme

/-! ## Strings -/

theorem hexDigit?_hexLetter : ∀ n, n < 16 → Text.hexDigit? (Text.hexLetter n) = some n := by decide

/-- The code of a control character is read from its four digits. -/
theorem hexCode_control {n : Nat} (h : n < 0x20) (rest : List Char) :
    hexCode ('0' :: '0' :: Text.hexLetter (n / 16) :: Text.hexLetter (n % 16) :: rest) = .ok (n, rest) := by
  have hzero : Text.hexDigit? '0' = some 0 := rfl
  have hhigh := hexDigit?_hexLetter (n / 16) (by omega)
  have hlow := hexDigit?_hexLetter (n % 16) (by omega)
  have hsum : 16 * (n / 16) + n % 16 = n := by omega
  simp only [hexCode, hzero, hhigh, hlow]
  simp [hsum]

/-- The escape of a control character stands for it. -/
theorem escape_control {c : Char} (h : c.toNat < 0x20) (rest : List Char) :
    escape ('u' :: '0' :: '0' :: Text.hexLetter (c.toNat / 16) :: Text.hexLetter (c.toNat % 16) :: rest) =
      .ok (c, rest) := by
  have hlow : isLowSurrogate c.toNat = false := by
    simp only [isLowSurrogate, Bool.and_eq_false_iff, decide_eq_false_iff_not]
    omega
  have hhigh : isHighSurrogate c.toNat = false := by
    simp only [isHighSurrogate, Bool.and_eq_false_iff, decide_eq_false_iff_not]
    omega
  simp only [escape, hexCode_control h, hlow, hhigh, Char.ofNat_toNat]
  rfl

/-- A character is printed as it is, or as a backslash and an escape that stands for it. -/
theorem escapeChar_cases (c : Char) :
    (escapeChar c = [c] ∧ c ≠ '"' ∧ c ≠ '\\' ∧ 0x20 ≤ c.toNat) ∨
      ∃ e, escapeChar c = '\\' :: e ∧ ∀ rest, escape (e ++ rest) = .ok (c, rest) := by
  unfold escapeChar
  split
  · rename_i h; subst h; exact .inr ⟨_, rfl, fun _ => rfl⟩
  split
  · rename_i h; subst h; exact .inr ⟨_, rfl, fun _ => rfl⟩
  split
  · rename_i h; subst h; exact .inr ⟨_, rfl, fun _ => rfl⟩
  split
  · rename_i h; subst h; exact .inr ⟨_, rfl, fun _ => rfl⟩
  split
  · rename_i h; subst h; exact .inr ⟨_, rfl, fun _ => rfl⟩
  split
  · rename_i h; subst h; exact .inr ⟨_, rfl, fun _ => rfl⟩
  split
  · rename_i h; subst h; exact .inr ⟨_, rfl, fun _ => rfl⟩
  split
  · rename_i h; exact .inr ⟨_, rfl, escape_control h⟩
  · rename_i hquote hbackslash _ _ _ _ _ hlarge
    exact .inl ⟨rfl, hquote, hbackslash, Nat.le_of_not_lt hlarge⟩

theorem stringLoop_escaped {done cs : List Char} {fuel : Nat} (h : cs.length < fuel) (rest : List Char) :
    stringLoop done fuel (cs.flatMap escapeChar ++ '"' :: rest) =
      .ok (String.ofList (done.reverse ++ cs), rest) := by
  induction cs generalizing done fuel with
  | nil =>
    cases fuel with
    | zero => exact absurd h (Nat.not_lt_zero _)
    | succ fuel => simp [stringLoop]
  | cons c cs ih =>
    cases fuel with
    | zero => exact absurd h (Nat.not_lt_zero _)
    | succ fuel =>
      have hfuel : cs.length < fuel := Nat.lt_of_succ_lt_succ h
      rw [List.flatMap_cons, List.append_assoc]
      rcases escapeChar_cases c with ⟨hsame, hquote, hbackslash, hlarge⟩ | ⟨e, hescaped, hescape⟩
      · rw [hsame, List.singleton_append, stringLoop, if_neg hquote, if_neg hbackslash,
          if_neg (Nat.not_lt.2 hlarge), ih hfuel]
        simp
      · rw [hescaped, List.cons_append, stringLoop, if_neg (by decide), if_pos rfl, hescape]
        simp only [ih hfuel]
        simp

theorem length_le_flatMap {α β : Type} {f : α → List β} (xs : List α) (hf : ∀ x, f x ≠ []) :
    xs.length ≤ (xs.flatMap f).length := by
  induction xs with
  | nil => exact Nat.le_refl _
  | cons x xs ih =>
    have hx : 0 < (f x).length := List.length_pos_iff.2 (hf x)
    simp only [List.flatMap_cons, List.length_append, List.length_cons]
    omega

theorem escapeChar_ne_nil (c : Char) : escapeChar c ≠ [] := by
  rcases escapeChar_cases c with ⟨h, _⟩ | ⟨e, h, _⟩ <;> simp [h]

/-- A string is read back from what follows its opening mark. -/
theorem stringTail_quoted (s : String) (rest : List Char) :
    stringTail (s.toList.flatMap escapeChar ++ '"' :: rest) = .ok (s, rest) := by
  have hlength := length_le_flatMap s.toList escapeChar_ne_nil
  rw [stringTail, stringLoop_escaped (by simp only [List.length_append, List.length_cons]; omega)]
  simp

/-! ## Integers -/

/-- A number that is read up to here ends here: it cannot go on with what follows. -/
def EndsNumber (rest : List Char) : Prop :=
  ∀ c, rest.head? = some c → c.isDigit = false ∧ c ≠ '.' ∧ c ≠ 'e' ∧ c ≠ 'E'

theorem endsNumber_nil : EndsNumber [] := by
  intro c h
  cases h

theorem endsNumber_cons {c : Char} (h : c.isDigit = false ∧ c ≠ '.' ∧ c ≠ 'e' ∧ c ≠ 'E') (rest : List Char) :
    EndsNumber (c :: rest) := by
  intro d hd
  cases hd
  exact h

theorem digitValue_digitChar : ∀ n, n < 10 → Text.digitValue n.digitChar = n := by decide

theorem digitChar_ne_zero : ∀ n, n < 10 → 0 < n → n.digitChar ≠ '0' := by decide

theorem whole_digitChar {k n : Nat} (hk : k < 10) (h : 10 * n + k ≤ maxNatural) :
    Digits.whole ⟨n, 0, false⟩ k.digitChar = ⟨10 * n + k, 0, false⟩ := by
  have hfits : ¬maxNatural < 10 * n + k := Nat.not_lt.2 h
  simp [Digits.whole, digitValue_digitChar k hk, hfits]

/-- Reading the digits of a number gives the number. -/
theorem foldl_whole_toDigits {n : Nat} (h : n ≤ maxNatural) :
    (Nat.toDigits 10 n).foldl Digits.whole ⟨0, 0, false⟩ = ⟨n, 0, false⟩ := by
  induction n using Nat.strongRecOn with
  | ind n ih =>
    by_cases hn : n < 10
    · rw [Nat.toDigits_of_lt_base hn, List.foldl_cons, List.foldl_nil, whole_digitChar hn (by omega)]
      simp
    · rw [Nat.toDigits_of_base_le (by decide) (Nat.le_of_not_lt hn), List.foldl_append,
        ih (n / 10) (by omega) (by omega), List.foldl_cons, List.foldl_nil,
        whole_digitChar (by omega) (by omega), Nat.div_add_mod]

theorem exists_toDigits {n : Nat} (h : 0 < n) : ∃ c cs, Nat.toDigits 10 n = c :: cs ∧ c ≠ '0' := by
  induction n using Nat.strongRecOn with
  | ind n ih =>
    by_cases hn : n < 10
    · exact ⟨_, [], Nat.toDigits_of_lt_base hn, digitChar_ne_zero n hn h⟩
    · obtain ⟨c, cs, hcs, hc⟩ := ih (n / 10) (by omega) (by omega)
      rw [Nat.toDigits_of_base_le (by decide) (Nat.le_of_not_lt hn), hcs]
      exact ⟨c, _, rfl, hc⟩

theorem numberTail_of_endsNumber {rest : List Char} (h : EndsNumber rest) (negative : Bool) (d : Digits) :
    numberTail negative d rest = wholeNumber negative d rest := by
  unfold numberTail
  split
  · exact absurd rfl (h _ rfl).2.1
  · exact absurd rfl (h _ rfl).2.2.1
  · exact absurd rfl (h _ rfl).2.2.2
  · rfl

theorem unsigned_toDigits {n : Nat} (hn : n ≤ maxNatural) {rest : List Char} (h : EndsNumber rest)
    (negative : Bool) :
    unsigned negative (Nat.toDigits 10 n ++ rest) = wholeNumber negative ⟨n, 0, false⟩ rest := by
  rw [← numberTail_of_endsNumber h]
  rcases Nat.eq_zero_or_pos n with rfl | hpos
  · have hhead : rest.head?.any Char.isDigit = false := by
      cases rest with
      | nil => rfl
      | cons c rest => exact (h c rfl).1
    rw [Nat.toDigits_zero, List.singleton_append, unsigned, hhead]
    rfl
  · obtain ⟨c, cs, hcs, hc⟩ := exists_toDigits hpos
    have hdigits : ∀ d ∈ Nat.toDigits 10 n, d.isDigit = true :=
      fun d hd => Nat.isDigit_of_mem_toDigits (by decide) (by decide) hd
    have hstop : rest.takeWhile Char.isDigit = [] ∧ rest.dropWhile Char.isDigit = rest := by
      cases rest with
      | nil => exact ⟨rfl, rfl⟩
      | cons d rest =>
        have hd := (h d rfl).1
        simp [hd]
    have htake : (Nat.toDigits 10 n ++ rest).takeWhile Char.isDigit = Nat.toDigits 10 n := by
      rw [List.takeWhile_append_of_pos hdigits, hstop.1, List.append_nil]
    have hdrop : (Nat.toDigits 10 n ++ rest).dropWhile Char.isDigit = rest := by
      rw [List.dropWhile_append_of_pos hdigits, hstop.2]
    have hvalue := foldl_whole_toDigits hn
    have hfirst : c.isDigit = true := hdigits c (by rw [hcs]; exact List.mem_cons_self)
    rw [hcs, List.cons_append] at htake hdrop ⊢
    rw [hcs] at hvalue
    unfold unsigned
    split
    · rename_i heq
      cases heq
    · rename_i heq
      cases heq
      exact absurd rfl hc
    · rename_i heq
      cases heq
      rw [htake, hdrop, hvalue, hfirst]
      rfl

theorem number_of_digit {c : Char} (hc : c.isDigit = true) (s : List Char) :
    number (c :: s) = unsigned false (c :: s) := by
  unfold number
  split
  · rename_i heq
    cases heq
    exact absurd hc (by decide)
  · rfl

/-- The text of an integer: its digits, after a sign if it is negative. -/
theorem text_ofNat (n : Nat) : (Number.integer (Int.ofNat n)).text.toList = Nat.toDigits 10 n :=
  Nat.toList_repr

theorem text_negSucc (n : Nat) :
    (Number.integer (Int.negSucc n)).text.toList = '-' :: Nat.toDigits 10 (n + 1) := by
  have htext : (Number.integer (Int.negSucc n)).text = "-" ++ (n + 1).repr := rfl
  rw [htext, String.toList_append, Nat.toList_repr]
  rfl

/-- An integer of 64 bits is read back as it is printed. -/
theorem number_integer {i : Int} (hmin : minInteger ≤ i) (hmax : i ≤ maxNatural) {rest : List Char}
    (h : EndsNumber rest) : number ((Number.integer i).text.toList ++ rest) = .ok (.integer i, rest) := by
  cases i with
  | ofNat n =>
    have hdigits : number (Nat.toDigits 10 n ++ rest) = unsigned false (Nat.toDigits 10 n ++ rest) := by
      cases hcs : Nat.toDigits 10 n with
      | nil => exact absurd hcs Nat.toDigits_ne_nil
      | cons c cs =>
        have hc : c ∈ Nat.toDigits 10 n := by rw [hcs]; exact List.mem_cons_self
        exact number_of_digit (Nat.isDigit_of_mem_toDigits (by decide) (by decide) hc) _
    rw [text_ofNat, hdigits, unsigned_toDigits (Int.ofNat_le.1 hmax) h]
    rfl
  | negSucc n =>
    have hsize : n + 1 ≤ 2 ^ 63 := by
      have : -(2 ^ 63 : Int) ≤ Int.negSucc n := hmin
      omega
    have hfits : n + 1 ≤ maxNatural := Nat.le_trans hsize (by decide)
    have hexact : ¬(n + 1 = 0 ∨ (-((n + 1 : Nat) : Int)) < minInteger) := by
      rintro (hzero | hlt)
      · exact absurd hzero (Nat.succ_ne_zero n)
      · exact absurd hmin (Int.not_le.2 hlt)
    rw [text_negSucc, List.cons_append, number, unsigned_toDigits hfits h, wholeNumber, if_neg (by simp),
      if_neg (by simp), if_neg hexact]
    rfl

end Lexeme
end Json
end SurveyIntake
