import SurveyIntake.Text.Basic

/-!
# SurveyIntake.Token

Tokens that stand for pending submissions.

* `Token`       — any text; one that was never issued is found nowhere.
* `Token.parse` — accepts the written forms of a UUID only: 32 hexadecimal digits, in five groups with
  hyphens between them, and these groups in braces or after `urn:uuid:`.
* `Token.ofBytes` — a random UUID of the fourth version, from sixteen bytes.
-/

namespace SurveyIntake

structure Token where
  text : String
  deriving DecidableEq

namespace Token

instance : LT Token := ⟨fun a b => a.text < b.text⟩

instance : DecidableLT Token := fun a b => inferInstanceAs (Decidable (a.text < b.text))

instance : Trans (α := Token) (· < ·) (· < ·) (· < ·) where
  trans := fun h h' => String.lt_trans h h'

instance : Std.Trichotomous (α := Token) (· < ·) where
  trichotomous := by
    intro a b hab hba
    have : a.text = b.text := Std.Trichotomous.trichotomous (r := (· < ·)) _ _ hab hba
    cases a; cases b
    simp_all

instance : Std.Irrefl (α := Token) (· < ·) where
  irrefl a := String.lt_irrefl a.text

/-- The lengths of the groups of digits. -/
def groups : List Nat := [8, 4, 4, 4, 12]

/-- Whether a text is groups of hexadecimal digits of these lengths, a hyphen between each two. -/
def isGrouped : List Nat → List Char → Bool
  | [], s => s.isEmpty
  | [n], s => s.length == n && s.all Text.isHexDigit
  | n :: m :: rest, s =>
    (s.take n).length == n && (s.take n).all Text.isHexDigit && (s.drop n).head? == some '-' &&
      isGrouped (m :: rest) (s.drop (n + 1))

def isUuid (s : List Char) : Bool :=
  isGrouped [32] s || isGrouped groups s ||
    (s.head? == some '\x7b' && s.getLast? == some '\x7d' && isGrouped groups s.tail.dropLast) ||
    ("urn:uuid:".toList.isPrefixOf s && isGrouped groups (s.drop 9))

/-! ## New tokens -/

def byteCount : Nat := 16

/-- A byte of a UUID, made from a random one. The version stands in the byte with index 6, the variant
in the one with index 8. -/
def marked (index byte : Nat) : Nat :=
  if index = 6 then 0x40 + byte % 0x10 else if index = 8 then 0x80 + byte % 0x40 else byte % 0x100

/-- Digits in groups of these lengths, with hyphens between the groups. -/
def group : List Nat → List Char → List Char
  | [], s => s
  | [_], s => s
  | n :: m :: rest, s => s.take n ++ '-' :: group (m :: rest) (s.drop n)

def byteDigits (byte : Nat) : List Char := [Text.hexLetter (byte / 16), Text.hexLetter (byte % 16)]

def ofBytes (bytes : List Nat) : Token :=
  let digits := (List.range byteCount).flatMap fun i => byteDigits (marked i (bytes.getD i 0))
  ⟨String.ofList (group groups digits)⟩

/-! ## Tokens in texts -/

def parse (text : String) : Option Token := if isUuid text.toList then some ⟨text⟩ else none

end Token
end SurveyIntake
