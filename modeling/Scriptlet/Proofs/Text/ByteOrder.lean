/-
  The order of strings in terms of their bytes.

  Strings are ordered by their code points. The encoding of
  a code point is such that an earlier one has the lesser
  bytes, whatever follows. Therefore the order of strings is
  also the order of the bytes that encode them.

  Key definitions include:
    * `Sorting`
    * `Utf8.Sorts`
    * `Utf8.withTail`

  Key theorems include:
    * `Sorting.flatMap_lt_iff`
    * `Utf8.sorting_encodeChar`
    * `Utf8.lt_iff_codePoints_lt`
    * `Utf8.lt_iff_bytes_lt`
-/

------------------------------------------------------------
-- Encodings That Keep the Order
------------------------------------------------------------

namespace Scriptlet

/-
  An encoding of letters by words. The words of two letters
  decide which comes first, whatever follows them.
-/
structure Sorting
    {A B : Type}
    [LT A] [LT B]
    (code : A → List B) : Prop where
  ne_nil : ∀ letter, code letter ≠ []
  append_lt :
    ∀ {left right : A},
      left < right →
        ∀ leftRest rightRest : List B,
          code left ++ leftRest < code right ++ rightRest

namespace Sorting

variable {A B : Type} [LT A] [LT B]
variable {code : A → List B}

theorem flatMap_lt
    (hSorting : Sorting code)
    {left right : List A}
    (hLess : List.Lex (· < ·) left right) :
    left.flatMap code < right.flatMap code := by
  induction hLess with
  | nil =>
      rw [List.flatMap_nil, List.flatMap_cons]
      rcases List.exists_cons_of_ne_nil
          (hSorting.ne_nil _) with
        ⟨first, rest, hCode⟩
      rw [hCode]
      exact List.nil_lt_cons _ _
  | cons _ ih =>
      rw [List.flatMap_cons, List.flatMap_cons]
      exact List.append_left_lt ih
  | rel hLess =>
      rw [List.flatMap_cons, List.flatMap_cons]
      exact hSorting.append_lt hLess _ _

/- Encoded texts are in the order of the texts. -/
theorem flatMap_lt_iff
    [DecidableEq A] [DecidableLT A]
    [Std.Trichotomous (fun left right : A => left < right)]
    [Std.Asymm (fun left right : B => left < right)]
    (hSorting : Sorting code)
    (left right : List A) :
    left.flatMap code < right.flatMap code ↔
      left < right := by
  constructor
  · intro hCodes
    by_cases hLess : left < right
    · exact hLess
    · have hMore : ¬ right < left := by
        intro hMore
        exact List.lt_asymm hCodes
          (hSorting.flatMap_lt hMore)
      have hSame : left = right :=
        List.lex_trichotomous
          Std.Trichotomous.trichotomous hMore hLess
      rw [hSame] at hCodes
      exact absurd hCodes (List.lt_irrefl _)
  · exact hSorting.flatMap_lt

end Sorting

end Scriptlet

------------------------------------------------------------
-- Numbers Written as Bytes
------------------------------------------------------------

namespace Scriptlet

namespace Utf8

/- A number in the first byte of a sequence. -/
def lead
    (bound offset number : Nat) :
    List UInt8 :=
  [UInt8.ofNat (number % bound + offset)]

/- One more byte at the end, with six bits of a number. -/
def withTail
    (code : Nat → List UInt8)
    (number : Nat) :
    List UInt8 :=
  code (number / 64) ++ [UInt8.ofNat (number % 64 + 128)]

/- One way to write small numbers, another for the rest. -/
def upTo
    (last : Nat)
    (code next : Nat → List UInt8)
    (number : Nat) :
    List UInt8 :=
  if number ≤ last then code number else next number

/- The numbers below a bound are written in their order. -/
def Sorts
    (bound : Nat)
    (code : Nat → List UInt8) : Prop :=
  ∀ left right,
    left < right → right < bound →
      ∀ leftRest rightRest : List UInt8,
        code left ++ leftRest < code right ++ rightRest

/- All numbers have a first byte in some range. -/
def Leads
    (low high : Nat)
    (code : Nat → List UInt8) : Prop :=
  ∀ number,
    ∃ first rest,
      code number = UInt8.ofNat first :: rest ∧
        low ≤ first ∧ first < high

theorem ofNat_lt_ofNat
    {left right : Nat}
    (hLess : left < right)
    (hByte : right < 256) :
    UInt8.ofNat left < UInt8.ofNat right := by
  rw [UInt8.lt_iff_toNat_lt, UInt8.toNat_ofNat',
    UInt8.toNat_ofNat']
  omega

theorem leads_lead
    {low high bound offset : Nat}
    (hBound : 0 < bound)
    (hLow : low ≤ offset)
    (hHigh : bound + offset ≤ high) :
    Leads low high (lead bound offset) := by
  intro number
  have hMod := Nat.mod_lt number hBound
  exact ⟨_, [], rfl, by omega, by omega⟩

theorem sorts_lead
    {bound offset : Nat}
    (hByte : bound + offset ≤ 256) :
    Sorts bound (lead bound offset) := by
  intro left right hLess hRight leftRest rightRest
  apply List.Lex.rel
  rw [Nat.mod_eq_of_lt (Nat.lt_trans hLess hRight),
    Nat.mod_eq_of_lt hRight]
  exact ofNat_lt_ofNat (by omega) (by omega)

variable {low middle high bound last : Nat}
variable {code next : Nat → List UInt8}

theorem Leads.withTail
    (hLeads : Leads low high code) :
    Leads low high (withTail code) := by
  intro number
  rcases hLeads (number / 64) with
    ⟨first, rest, hCode, hRange⟩
  refine
    ⟨first, rest ++ [UInt8.ofNat (number % 64 + 128)], ?_,
      hRange⟩
  rw [Utf8.withTail, hCode, List.cons_append]

/- The last six bits matter if all others are the same. -/
theorem Sorts.withTail
    (hSorts : Sorts bound code) :
    Sorts (64 * bound) (withTail code) := by
  intro left right hLess hRight leftRest rightRest
  unfold Utf8.withTail
  rw [List.append_assoc, List.append_assoc]
  by_cases hLead : left / 64 < right / 64
  · exact hSorts _ _ hLead (by omega) _ _
  · have hSame : left / 64 = right / 64 := by
      omega
    rw [hSame]
    apply List.append_left_lt
    apply List.Lex.rel
    exact ofNat_lt_ofNat (by omega) (by omega)

theorem Leads.upTo
    (hCode : Leads low middle code)
    (hNext : Leads middle high next)
    (hLow : low ≤ middle)
    (hHigh : middle ≤ high)
    (last : Nat) :
    Leads low high (upTo last code next) := by
  intro number
  unfold Utf8.upTo
  split
  · rcases hCode number with
      ⟨first, rest, hFirst, hRange⟩
    exact ⟨first, rest, hFirst, by omega, by omega⟩
  · rcases hNext number with
      ⟨first, rest, hFirst, hRange⟩
    exact ⟨first, rest, hFirst, by omega, by omega⟩

/- Two ways of writing are told apart by the first byte. -/
theorem Leads.append_lt
    (hCode : Leads low middle code)
    (hNext : Leads middle high next)
    (hByte : high ≤ 256)
    (left right : Nat)
    (leftRest rightRest : List UInt8) :
    code left ++ leftRest < next right ++ rightRest := by
  rcases hCode left with ⟨first, _, hLeft, hFirst⟩
  rcases hNext right with ⟨second, _, hRight, hSecond⟩
  rw [hLeft, hRight]
  apply List.Lex.rel
  exact ofNat_lt_ofNat (by omega) (by omega)

theorem Sorts.upTo
    (hCode : Sorts (last + 1) code)
    (hNext : Sorts bound next)
    (hLeads : Leads low middle code)
    (hNextLeads : Leads middle high next)
    (hByte : high ≤ 256) :
    Sorts bound (upTo last code next) := by
  intro left right hLess hRight leftRest rightRest
  unfold Utf8.upTo
  by_cases hLeft : left ≤ last
  · rw [if_pos hLeft]
    by_cases hLast : right ≤ last
    · rw [if_pos hLast]
      exact hCode _ _ hLess (by omega) _ _
    · rw [if_neg hLast]
      exact hLeads.append_lt hNextLeads hByte _ _ _ _
  · rw [if_neg hLeft, if_neg (by omega)]
    exact hNext _ _ hLess hRight _ _

end Utf8

end Scriptlet

------------------------------------------------------------
-- Code Points
------------------------------------------------------------

namespace Scriptlet

namespace Utf8

def oneByte : Nat → List UInt8 :=
  lead 128 0

def twoBytes : Nat → List UInt8 :=
  withTail (lead 32 192)

def threeBytes : Nat → List UInt8 :=
  withTail (withTail (lead 16 224))

def fourBytes : Nat → List UInt8 :=
  withTail (withTail (withTail (lead 8 240)))

/- A number is written with as few bytes as can hold it. -/
def encode : Nat → List UInt8 :=
  upTo 127 oneByte
    (upTo 2047 twoBytes (upTo 65535 threeBytes fourBytes))

theorem encodeChar_eq (char : Char) :
    String.utf8EncodeChar char = encode char.toNat := by
  rw [String.utf8EncodeChar]
  simp only [encode, oneByte, twoBytes, threeBytes,
    fourBytes, upTo, withTail, lead, Char.toNat_val,
    Nat.div_div_eq_div_mul, Nat.reduceMul, Nat.add_zero,
    List.cons_append, List.nil_append]
  split
  case isTrue hShort =>
      rw [Nat.mod_eq_of_lt (Nat.lt_succ_of_le hShort)]
  case isFalse => rfl

theorem leads_oneByte : Leads 0 192 oneByte :=
  leads_lead (by decide) (by decide) (by decide)

theorem leads_twoBytes : Leads 192 224 twoBytes :=
  Leads.withTail
    (leads_lead (by decide) (by decide) (by decide))

theorem leads_threeBytes : Leads 224 240 threeBytes :=
  Leads.withTail (Leads.withTail
    (leads_lead (by decide) (by decide) (by decide)))

theorem leads_fourBytes : Leads 240 248 fourBytes :=
  Leads.withTail (Leads.withTail (Leads.withTail
    (leads_lead (by decide) (by decide) (by decide))))

/-
  Sequences of one length are in order by their digits, and
  all others by the first byte.
-/
theorem sorts_encode :
    Sorts (64 * (64 * (64 * 8))) encode := by
  have hOne : Sorts 128 oneByte :=
    sorts_lead (by decide)
  have hTwo : Sorts (64 * 32) twoBytes :=
    Sorts.withTail (sorts_lead (by decide))
  have hThree : Sorts (64 * (64 * 16)) threeBytes :=
    Sorts.withTail (Sorts.withTail (sorts_lead (by decide)))
  have hFour : Sorts (64 * (64 * (64 * 8))) fourBytes :=
    Sorts.withTail (Sorts.withTail (Sorts.withTail
      (sorts_lead (by decide))))
  have hLong :=
    leads_threeBytes.upTo leads_fourBytes (by decide)
      (by decide) 65535
  have hLonger :=
    leads_twoBytes.upTo hLong (by decide) (by decide) 2047
  apply hOne.upTo _ leads_oneByte hLonger (by decide)
  apply hTwo.upTo _ leads_twoBytes hLong (by decide)
  exact hThree.upTo hFour leads_threeBytes leads_fourBytes
    (by decide)

/- So are the code points of characters. -/
theorem sorting_encodeChar :
    Sorting String.utf8EncodeChar where
  ne_nil char hNil := by
    have hSize := String.length_utf8EncodeChar char
    rw [hNil] at hSize
    exact absurd hSize.symm (Nat.ne_of_gt char.utf8Size_pos)
  append_lt := by
    intro left right hLess leftRest rightRest
    have hBound : right.toNat < 64 * (64 * (64 * 8)) := by
      rcases right.valid with hLow | ⟨-, hHigh⟩
      · exact Nat.lt_trans hLow (by decide)
      · exact Nat.lt_trans hHigh (by decide)
    rw [encodeChar_eq, encodeChar_eq]
    exact sorts_encode _ _ hLess hBound _ _

theorem sorting_codePoint :
    Sorting fun char : Char => [char.toNat] where
  ne_nil _ := List.cons_ne_nil _ _
  append_lt hLess _ _ := List.Lex.rel hLess

end Utf8

end Scriptlet

------------------------------------------------------------
-- Strings
------------------------------------------------------------

namespace Scriptlet

namespace Utf8

/- The code points of a string. -/
def codePoints
    (text : String) :
    List Nat :=
  text.toList.map Char.toNat

/- The bytes of a string. -/
def bytes
    (text : String) :
    List UInt8 :=
  text.toUTF8.data.toList

theorem bytes_eq (text : String) :
    bytes text =
      text.toList.flatMap String.utf8EncodeChar := by
  rw [bytes, String.toUTF8_eq_toByteArray,
    ← String.utf8Encode_toList, List.utf8Encode,
    List.data_toByteArray]

/- Strings are in the order of their code points. -/
theorem lt_iff_codePoints_lt (left right : String) :
    left < right ↔
      List.Lex (· < ·) (codePoints left)
        (codePoints right) := by
  change left.toList < right.toList ↔ _
  rw [codePoints, codePoints, List.map_eq_flatMap,
    List.map_eq_flatMap]
  exact (sorting_codePoint.flatMap_lt_iff _ _).symm

/- They are in the order of their bytes as well. -/
theorem lt_iff_bytes_lt (left right : String) :
    left < right ↔
      List.Lex (· < ·) (bytes left) (bytes right) := by
  change left.toList < right.toList ↔ _
  rw [bytes_eq, bytes_eq]
  exact (sorting_encodeChar.flatMap_lt_iff _ _).symm

end Utf8

end Scriptlet
