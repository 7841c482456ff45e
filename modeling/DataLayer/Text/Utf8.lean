/-!
Texts as UTF-8 octets: the octets of a text, strict reading, and reading that puts U+FFFD where
octets form no character.
-/

namespace DataLayer.Text

def octets (s : String) : List UInt8 := s.toUTF8.toList

/-- The number of octets of a character sequence. -/
def octetCount (cs : List Char) : Nat := cs.foldl (fun n c => n + c.utf8Size) 0

/-- The text that the octets spell, if all of them do. -/
def ofOctets? (bs : List UInt8) : Option String := String.fromUTF8? ⟨bs.toArray⟩

/-- The number of octets after a leading octet, and the bounds of the first of them. -/
def continuation? (lead : UInt8) : Option (Nat × UInt8 × UInt8) :=
  if 0xC2 ≤ lead && lead ≤ 0xDF then some (1, 0x80, 0xBF)
  else if lead == 0xE0 then some (2, 0xA0, 0xBF)
  else if lead == 0xED then some (2, 0x80, 0x9F)
  else if 0xE1 ≤ lead && lead ≤ 0xEF then some (2, 0x80, 0xBF)
  else if lead == 0xF0 then some (3, 0x90, 0xBF)
  else if lead == 0xF4 then some (3, 0x80, 0x8F)
  else if 0xF1 ≤ lead && lead ≤ 0xF3 then some (3, 0x80, 0xBF)
  else none

/-- Reads up to `count` octets, the first within the bounds and the others from `0x80` to `0xBF`.
The result is the code point so far, whether all were there, and the rest. -/
def continued : Nat → UInt8 → UInt8 → Nat → List UInt8 → Nat × Bool × List UInt8
  | 0, _, _, code, rest => (code, true, rest)
  | _ + 1, _, _, code, [] => (code, false, [])
  | n + 1, low, high, code, b :: rest =>
    if low ≤ b && b ≤ high then continued n 0x80 0xBF (code * 64 + b.toNat % 64) rest
    else (code, false, b :: rest)

theorem length_continued_le (n : Nat) (low high : UInt8) (code : Nat) (bs : List UInt8) :
    (continued n low high code bs).2.2.length ≤ bs.length := by
  induction n generalizing low high code bs with
  | zero => simp [continued]
  | succ n ih =>
    cases bs with
    | nil => simp [continued]
    | cons b rest =>
      simp only [continued]
      split
      · exact Nat.le_trans (ih _ _ _ _) (Nat.le_succ _)
      · exact Nat.le_refl _

/-- The bits that a leading octet of a sequence with `n` further octets carries. -/
def leadBits (n : Nat) (lead : UInt8) : Nat :=
  lead.toNat % (if n = 1 then 32 else if n = 2 then 16 else 8)

/-- Each longest beginning of a character that is cut off, and each octet that begins none, is
read as one U+FFFD. -/
def lossyChars : List UInt8 → List Char
  | [] => []
  | b :: rest =>
    if b < 0x80 then Char.ofNat b.toNat :: lossyChars rest
    else match continuation? b with
      | none => '\uFFFD' :: lossyChars rest
      | some (n, low, high) =>
        let r := continued n low high (leadBits n b) rest
        (if r.2.1 then Char.ofNat r.1 else '\uFFFD') :: lossyChars r.2.2
termination_by bs => bs.length
decreasing_by
  · simp
  · simp
  · have := length_continued_le n low high (leadBits n b) rest
    simp only [List.length_cons]; omega

def lossy (bs : List UInt8) : String := String.ofList (lossyChars bs)

end DataLayer.Text
