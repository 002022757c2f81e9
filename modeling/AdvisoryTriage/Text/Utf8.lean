/-!
# Text from bytes

A document that arrives as bytes is read as UTF-8. Where it is not well formed the reader decides
what to do, since a fault in a part that nobody looks at need not matter. So decoding yields a list
of *symbols*: a character for each well-formed sequence of bytes, and a mark without a character for
each byte that begins none.

* `Text.Symbol` and `Text.symbols` – a character or such a mark; the symbols of a list of bytes.
* `Text.ofUtf8?` – the text, if every byte belongs to a character.
* `Text.byteLength` – how many bytes a text takes. Every character takes some, so bytes tell like
  characters do how far a text reaches (`Text.suffix_of_suffix_of_byteLength_le`).
-/

namespace AdvisoryTriage

namespace Text

/-- A character, or a piece of input that stands for none. -/
abbrev Symbol := Option Char

/-- Appends the six bits of each of the next `n` bytes to a number; all have to be bytes that
continue a sequence. -/
def continuation? : (n value : Nat) → List UInt8 → Option Nat
  | 0, value, _ => some value
  | _ + 1, _, [] => none
  | n + 1, value, b :: s =>
    if 0x80 ≤ b ∧ b < 0xc0 then continuation? n (64 * value + (b.toNat - 0x80)) s else none

/-- A character of a first byte with `n` bytes behind it, where `value` holds the bits of the first
byte and code points below `least` have a shorter spelling. -/
def sequence? (n value least : Nat) (s : List UInt8) : Option (Char × Nat) :=
  match continuation? n value s with
  | some code => if least ≤ code ∧ code.isValidChar then some (Char.ofNat code, n) else none
  | none => none

/-- The character that a byte begins, and how many of the bytes behind it belong to it. -/
def charAt? (b : UInt8) (s : List UInt8) : Option (Char × Nat) :=
  if b < 0x80 then some (Char.ofNat b.toNat, 0)
  else if b < 0xc0 then none
  else if b < 0xe0 then sequence? 1 (b.toNat - 0xc0) 0x80 s
  else if b < 0xf0 then sequence? 2 (b.toNat - 0xe0) 0x800 s
  else if b < 0xf8 then sequence? 3 (b.toNat - 0xf0) 0x10000 s
  else none

/-- The symbols of a list of bytes. -/
def symbols : List UInt8 → List Symbol
  | [] => []
  | b :: s =>
    match charAt? b s with
    | some (c, n) => some c :: symbols (s.drop n)
    | none => none :: symbols s
termination_by s => s.length
decreasing_by all_goals simp +arith

/-- The text of a list of bytes that is well formed throughout. -/
def ofUtf8? (bytes : List UInt8) : Option (List Char) :=
  (symbols bytes).mapM id

/-! ### Lengths in bytes -/

/-- How many bytes a text takes in UTF-8. -/
def byteLength : List Char → Nat
  | [] => 0
  | c :: s => c.utf8Size + byteLength s

@[simp] theorem byteLength_append (s t : List Char) :
    byteLength (s ++ t) = byteLength s + byteLength t := by
  induction s with
  | nil => rw [List.nil_append, byteLength, Nat.zero_add]
  | cons c s ih => rw [List.cons_append, byteLength, byteLength, ih, Nat.add_assoc]

theorem byteLength_eq_zero_iff {s : List Char} : byteLength s = 0 ↔ s = [] := by
  cases s with
  | nil => exact iff_of_true rfl rfl
  | cons c s =>
    have hpos := c.utf8Size_pos
    rw [byteLength]
    exact iff_of_false (by omega) (List.cons_ne_nil c s)

/-- Of two ends of a text, the one that takes no more bytes is an end of the other. -/
theorem suffix_of_suffix_of_byteLength_le {s t u : List Char} (hs : s <:+ u) (ht : t <:+ u)
    (h : byteLength s ≤ byteLength t) : s <:+ t := by
  rcases Nat.le_total s.length t.length with hle | hle
  · exact List.suffix_of_suffix_length_le hs ht hle
  · obtain ⟨front, rfl⟩ := List.suffix_of_suffix_length_le ht hs hle
    rw [byteLength_append] at h
    obtain rfl : front = [] := byteLength_eq_zero_iff.mp (by omega)
    exact List.suffix_refl t

end Text

end AdvisoryTriage
