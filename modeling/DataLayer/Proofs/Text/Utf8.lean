import DataLayer.Xml.Markup
import Mathlib.Data.List.Chain

/-!
The octets of a text are read back as that text, whatever octets follow. A character of ASCII has
one octet, which no other character has; so a text and its octets can be searched for it alike.
-/

namespace DataLayer.Text

/-- The octets of a character sequence. -/
def utf8 (cs : List Char) : List UInt8 := cs.flatMap String.utf8EncodeChar

@[simp] theorem utf8_nil : utf8 [] = [] := rfl

@[simp] theorem utf8_cons (c : Char) (cs : List Char) :
    utf8 (c :: cs) = String.utf8EncodeChar c ++ utf8 cs := rfl

@[simp] theorem utf8_append (cs cs' : List Char) : utf8 (cs ++ cs') = utf8 cs ++ utf8 cs' :=
  List.flatMap_append

theorem byteArray_toList_loop (a : ByteArray) (i : Nat) (read : List UInt8) :
    ByteArray.toList.loop a i read = read.reverse ++ a.data.toList.drop i := by
  fun_induction ByteArray.toList.loop a i read with
  | case1 i read h ih =>
    have hi : i < a.data.toList.length := by simpa using h
    rw [ih, List.drop_eq_getElem_cons hi]
    simp [ByteArray.get!, h]
  | case2 i read h =>
    have hi : a.data.toList.length ≤ i := by simpa using h
    rw [List.drop_eq_nil_of_le hi, List.append_nil]

theorem byteArray_toList (a : ByteArray) : a.toList = a.data.toList := by
  rw [ByteArray.toList, byteArray_toList_loop]
  rfl

theorem octets_ofList (cs : List Char) : octets (String.ofList cs) = utf8 cs := by
  rw [octets, String.toUTF8, String.toByteArray_ofList, byteArray_toList, List.utf8Encode,
    List.toList_data_toByteArray, utf8]

/-- The octets of a text are taken for that text. -/
theorem ofOctets?_octets (s : String) : ofOctets? (octets s) = some s := by
  rw [ofOctets?, octets, byteArray_toList, Array.toArray_toList, String.toUTF8, String.fromUTF8?,
    dif_pos s.isValidUTF8]
  rfl

theorem ofOctets?_utf8 (cs : List Char) : ofOctets? (utf8 cs) = some (String.ofList cs) := by
  rw [← octets_ofList, ofOctets?_octets]

/-! Reading characters back. -/

section reading

variable {v n : Nat} {lead low high : UInt8} {rest : List UInt8}

theorem lossyChars_cons_of_lt (h : lead < 0x80) :
    lossyChars (lead :: rest) = Char.ofNat lead.toNat :: lossyChars rest := by
  rw [lossyChars, if_pos h]

theorem lossyChars_cons_of_continued {bs : List UInt8} {code : Nat}
    (hcontinuation : continuation? lead = some (n, low, high))
    (hcontinued : continued n low high (leadBits n lead) bs = (code, true, rest))
    (h : ¬lead < 0x80) : lossyChars (lead :: bs) = Char.ofNat code :: lossyChars rest := by
  rw [lossyChars, if_neg h, hcontinuation]
  simp only [hcontinued, if_true]

/-- An octet with six bits of a code point. -/
theorem continued_succ {code k : Nat} (hk : k < 64) (hlow : low.toNat ≤ k + 128)
    (hhigh : k + 128 ≤ high.toNat) :
    continued (n + 1) low high code (UInt8.ofNat (k + 128) :: rest) =
      continued n 0x80 0xBF (code * 64 + k) rest := by
  have hoctet : (UInt8.ofNat (k + 128)).toNat = k + 128 := by
    rw [UInt8.toNat_ofNat']
    omega
  have hwithin : (low ≤ UInt8.ofNat (k + 128) && UInt8.ofNat (k + 128) ≤ high) = true := by
    simp only [Bool.and_eq_true, decide_eq_true_eq, UInt8.le_iff_toNat_le, hoctet]
    exact ⟨hlow, hhigh⟩
  rw [continued, if_pos hwithin, hoctet]
  congr 1
  omega

/-- The other octets have only the bounds of every continuation. -/
theorem continued_succ_of_lt {code k : Nat} (hk : k < 64) :
    continued (n + 1) 0x80 0xBF code (UInt8.ofNat (k + 128) :: rest) =
      continued n 0x80 0xBF (code * 64 + k) rest :=
  continued_succ hk (Nat.le_add_left ..) (by
    have : (0xBF : UInt8).toNat = 191 := rfl
    omega)

/-! The leading octet of a character is not alone, and it says what its first follower may be. -/

theorem continuation?_two (h : 127 < v) (h' : v ≤ 2047) :
    continuation? (UInt8.ofNat (v / 64 % 32 + 192)) = some (1, 0x80, 0xBF) := by
  have hlead : (UInt8.ofNat (v / 64 % 32 + 192)).toNat = v / 64 + 192 := by
    rw [UInt8.toNat_ofNat']
    omega
  simp [continuation?, UInt8.le_iff_toNat_le]
  omega

theorem exists_continuation?_three (h : 2047 < v) (h' : v ≤ 65535) (hvalid : v.isValidChar) :
    ∃ low high, continuation? (UInt8.ofNat (v / 4096 % 16 + 224)) = some (2, low, high) ∧
      low.toNat ≤ v / 64 % 64 + 128 ∧ v / 64 % 64 + 128 ≤ high.toNat := by
  have hlead : (UInt8.ofNat (v / 4096 % 16 + 224)).toNat = v / 4096 + 224 := by
    rw [UInt8.toNat_ofNat']
    omega
  unfold Nat.isValidChar at hvalid
  simp only [continuation?, UInt8.le_iff_toNat_le, beq_iff_eq, ← UInt8.toNat_inj, hlead,
    Bool.and_eq_true, decide_eq_true_eq, UInt8.reduceToNat]
  split_ifs <;> simp <;> omega

theorem exists_continuation?_four (h : 65535 < v) (hvalid : v.isValidChar) :
    ∃ low high, continuation? (UInt8.ofNat (v / 262144 % 8 + 240)) = some (3, low, high) ∧
      low.toNat ≤ v / 4096 % 64 + 128 ∧ v / 4096 % 64 + 128 ≤ high.toNat := by
  have hlead : (UInt8.ofNat (v / 262144 % 8 + 240)).toNat = v / 262144 + 240 := by
    rw [UInt8.toNat_ofNat']
    unfold Nat.isValidChar at hvalid
    omega
  unfold Nat.isValidChar at hvalid
  simp only [continuation?, UInt8.le_iff_toNat_le, beq_iff_eq, ← UInt8.toNat_inj, hlead,
    Bool.and_eq_true, decide_eq_true_eq, UInt8.reduceToNat]
  split_ifs <;> simp <;> omega

theorem not_lt_lead {k : Nat} (h : 128 ≤ k) (h' : k < 256) : ¬UInt8.ofNat k < 0x80 := by
  rw [UInt8.lt_iff_toNat_lt, UInt8.toNat_ofNat', Nat.mod_eq_of_lt h']
  exact Nat.not_lt.mpr h

theorem leadBits_ofNat {k : Nat} (h : k < 256) :
    leadBits n (UInt8.ofNat k) = k % (if n = 1 then 32 else if n = 2 then 16 else 8) := by
  rw [leadBits, UInt8.toNat_ofNat', Nat.mod_eq_of_lt h]

theorem lossyChars_one (h : v ≤ 127) :
    lossyChars (UInt8.ofNat v :: rest) = Char.ofNat v :: lossyChars rest := by
  have hv : (UInt8.ofNat v).toNat = v := by
    rw [UInt8.toNat_ofNat']
    omega
  rw [lossyChars_cons_of_lt, hv]
  rw [UInt8.lt_iff_toNat_lt, hv]
  exact Nat.lt_succ_of_le h

theorem lossyChars_two (h : 127 < v) (h' : v ≤ 2047) :
    lossyChars (UInt8.ofNat (v / 64 % 32 + 192) :: UInt8.ofNat (v % 64 + 128) :: rest) =
      Char.ofNat v :: lossyChars rest := by
  refine lossyChars_cons_of_continued (continuation?_two h h') ?_
    (not_lt_lead (by omega) (by omega))
  rw [continued_succ_of_lt (by omega), continued, leadBits_ofNat (by omega)]
  congr 1
  simp only [Nat.reduceEqDiff, reduceIte]
  omega

theorem lossyChars_three (h : 2047 < v) (h' : v ≤ 65535) (hvalid : v.isValidChar) :
    lossyChars (UInt8.ofNat (v / 4096 % 16 + 224) :: UInt8.ofNat (v / 64 % 64 + 128) ::
      UInt8.ofNat (v % 64 + 128) :: rest) = Char.ofNat v :: lossyChars rest := by
  obtain ⟨low, high, hcontinuation, hlow, hhigh⟩ := exists_continuation?_three h h' hvalid
  refine lossyChars_cons_of_continued hcontinuation ?_ (not_lt_lead (by omega) (by omega))
  rw [continued_succ (by omega) hlow hhigh, continued_succ_of_lt (by omega), continued,
    leadBits_ofNat (by omega)]
  congr 1
  simp only [Nat.reduceEqDiff, reduceIte]
  omega

theorem lossyChars_four (h : 65535 < v) (hvalid : v.isValidChar) :
    lossyChars (UInt8.ofNat (v / 262144 % 8 + 240) :: UInt8.ofNat (v / 4096 % 64 + 128) ::
      UInt8.ofNat (v / 64 % 64 + 128) :: UInt8.ofNat (v % 64 + 128) :: rest) =
      Char.ofNat v :: lossyChars rest := by
  have hmax : v < 1114112 := by
    unfold Nat.isValidChar at hvalid
    omega
  obtain ⟨low, high, hcontinuation, hlow, hhigh⟩ := exists_continuation?_four h hvalid
  refine lossyChars_cons_of_continued hcontinuation ?_ (not_lt_lead (by omega) (by omega))
  rw [continued_succ (by omega) hlow hhigh, continued_succ_of_lt (by omega),
    continued_succ_of_lt (by omega), continued, leadBits_ofNat (by omega)]
  congr 1
  simp only [Nat.reduceEqDiff, reduceIte]
  omega

end reading

theorem lossyChars_encode (c : Char) (rest : List UInt8) :
    lossyChars (String.utf8EncodeChar c ++ rest) = c :: lossyChars rest := by
  have hvalid : c.val.toNat.isValidChar := c.valid
  have hc : Char.ofNat c.val.toNat = c := Char.ofNat_toNat c
  unfold String.utf8EncodeChar
  dsimp only
  split_ifs with hone htwo hthree
  · rw [List.singleton_append, lossyChars_one hone, hc]
  · exact (lossyChars_two (Nat.lt_of_not_le hone) htwo).trans (by rw [hc]; rfl)
  · exact (lossyChars_three (Nat.lt_of_not_le htwo) hthree hvalid).trans (by rw [hc]; rfl)
  · exact (lossyChars_four (Nat.lt_of_not_le hthree) hvalid).trans (by rw [hc]; rfl)

/-- What follows a text does not change how it is read. -/
theorem lossyChars_utf8_append (cs : List Char) (rest : List UInt8) :
    lossyChars (utf8 cs ++ rest) = cs ++ lossyChars rest := by
  induction cs with
  | nil => rfl
  | cons c cs ih => rw [utf8_cons, List.append_assoc, lossyChars_encode, ih, List.cons_append]

theorem lossyChars_utf8 (cs : List Char) : lossyChars (utf8 cs) = cs := by
  have h := lossyChars_utf8_append cs []
  rwa [List.append_nil, lossyChars, List.append_nil] at h

theorem lossy_utf8 (s : String) : lossy (utf8 s.toList) = s := by
  rw [lossy, lossyChars_utf8, String.ofList_toList]

theorem utf8_injective : Function.Injective utf8 :=
  Function.LeftInverse.injective lossyChars_utf8

/-! Characters of ASCII. -/

theorem encode_of_lt {c : Char} (h : c.toNat < 128) : String.utf8EncodeChar c = [c.toUInt8] := by
  unfold String.utf8EncodeChar
  exact if_pos (Nat.le_of_lt_succ h)

theorem le_of_mem_encode {c : Char} (h : 128 ≤ c.toNat) {b : UInt8}
    (hb : b ∈ String.utf8EncodeChar c) : 128 ≤ b.toNat := by
  have hnot : ¬c.val.toNat ≤ 127 := Nat.not_le.mpr h
  have hmax : c.val.toNat < 1114112 := by
    have hvalid : c.val.toNat.isValidChar := c.valid
    unfold Nat.isValidChar at hvalid
    omega
  unfold String.utf8EncodeChar at hb
  dsimp only at hb
  rw [if_neg hnot] at hb
  split_ifs at hb <;> simp only [List.mem_cons, List.not_mem_nil, or_false] at hb <;>
    rcases hb with rfl | rfl | rfl | rfl <;> rw [UInt8.toNat_ofNat'] <;> omega

/-- The octet of an ASCII character stands for nothing else. -/
theorem mem_encode_iff {c d : Char} (h : c.toNat < 128) :
    c.toUInt8 ∈ String.utf8EncodeChar d ↔ d = c := by
  have hoctet {e : Char} (he : e.toNat < 128) : e.toUInt8.toNat = e.toNat := by
    change e.toNat % 256 = e.toNat
    omega
  rcases Nat.lt_or_ge d.toNat 128 with hd | hd
  · rw [encode_of_lt hd, List.mem_singleton, ← UInt8.toNat_inj, hoctet h, hoctet hd, eq_comm]
    exact Char.toNat_inj
  · constructor
    · intro hmem
      have := le_of_mem_encode hd hmem
      rw [hoctet h] at this
      omega
    · rintro rfl
      omega

theorem mem_utf8_iff {c : Char} (h : c.toNat < 128) {cs : List Char} :
    c.toUInt8 ∈ utf8 cs ↔ c ∈ cs := by
  rw [utf8, List.mem_flatMap]
  constructor
  · rintro ⟨d, hd, hmem⟩
    exact (mem_encode_iff h).mp hmem ▸ hd
  · exact fun hc => ⟨c, hc, (mem_encode_iff h).mpr rfl⟩

/-- A text without two of a character in a row has octets without two of its octet in a row. -/
theorem isChain_utf8 {c : Char} (h : c.toNat < 128) {cs : List Char}
    (hcs : cs.IsChain fun d d' => ¬(d = c ∧ d' = c)) :
    (utf8 cs).IsChain fun b b' => ¬(b = c.toUInt8 ∧ b' = c.toUInt8) := by
  have hone {d : Char} {b : UInt8} (hb : b ∈ String.utf8EncodeChar d) (hbc : b = c.toUInt8) :
      d = c := (mem_encode_iff h).mp (hbc ▸ hb)
  have hwithin (d : Char) :
      (String.utf8EncodeChar d).IsChain fun b b' => ¬(b = c.toUInt8 ∧ b' = c.toUInt8) := by
    by_cases hd : d = c
    · rw [hd, encode_of_lt h]
      exact .singleton _
    · exact List.Pairwise.isChain (List.pairwise_of_forall_mem_list fun b hb b' _ hboth =>
        hd (hone hb hboth.1))
  have hbetween (d d' : Char) (hdd' : ¬(d = c ∧ d' = c)) :
      ∀ b ∈ (String.utf8EncodeChar d).getLast?, ∀ b' ∈ (String.utf8EncodeChar d').head?,
        ¬(b = c.toUInt8 ∧ b' = c.toUInt8) := fun b hb b' hb' hboth =>
    hdd' ⟨hone (List.mem_of_mem_getLast? hb) hboth.1, hone (List.mem_of_mem_head? hb') hboth.2⟩
  rw [utf8, List.flatMap, List.isChain_flatten (by simp), List.isChain_map]
  exact ⟨by simpa using fun d _ => hwithin d, hcs.imp hbetween⟩

end DataLayer.Text
