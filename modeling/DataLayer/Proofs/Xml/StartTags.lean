import DataLayer.Proofs.Xml.Scanning
import Mathlib.Data.List.TakeWhile

/-!
What a written tag says: its name without the prefix, and its attributes in order. Declarations of
namespaces are dropped whatever they hold.
-/

namespace DataLayer.Xml

open Text

/-! Values. -/

theorem unescape_escapeChar (c : Char) (cs : List Char) :
    unescape none (escapeChar c ++ cs) = (unescape none cs).map (c :: ·) := by
  unfold escapeChar
  split
  · rfl
  · rfl
  · rfl
  · rfl
  · next hamp _ _ _ => rw [List.singleton_append, unescape, if_neg (by simpa using hamp)]

theorem unescape_escape (s : String) : unescape none (escape s) = some s.toList := by
  unfold escape
  generalize s.toList = cs
  induction cs with
  | nil => rfl
  | cons c cs ih => rw [List.flatMap_cons, unescape_escapeChar, ih, Option.map_some]

theorem quote_notMem_escape (s : String) : '"' ∉ escape s := by
  intro hmem
  obtain ⟨c, -, hc⟩ := List.mem_flatMap.mp hmem
  revert hc
  unfold escapeChar
  split
  · decide
  · decide
  · decide
  · decide
  · next hquote => simpa using fun h => hquote h.symm

theorem Item.quote_notMem_utf8_value {i : Item} (h : i.WellChosen) :
    octet '"' ∉ utf8 i.value := by
  refine octet_notMem_utf8 (by decide) ?_
  cases i with
  | given q a => exact quote_notMem_escape a.value
  | declared w uri => exact h.2

/-! Names. -/

theorem all_bne_of_notMem {bs : Octets} {m : UInt8} (h : m ∉ bs) : ∀ b ∈ bs, (b != m) = true :=
  fun _ hb => bne_iff_ne.mpr fun hbm => h (hbm ▸ hb)

theorem localPart_of_notMem {name : Octets} (h : octet ':' ∉ name) : localPart name = name := by
  rw [localPart, List.dropWhile_eq_nil_iff.mpr (all_bne_of_notMem h)]

theorem localPart_append {q name : Octets} (h : octet ':' ∉ q) :
    localPart (q ++ octet ':' :: name) = name := by
  rw [localPart, List.dropWhile_append_of_pos (all_bne_of_notMem h),
    List.dropWhile_cons_of_neg (by simp)]

theorem utf8_qualified_some (q name : String) :
    utf8 (qualified (some q) name) = utf8 q.toList ++ octet ':' :: utf8 name.toList := by
  rw [qualified, utf8_append, utf8_cons_of_lt (by decide)]

theorem IsWord.colon_notMem {s : String} (h : IsWord s) : octet ':' ∉ utf8 s.toList :=
  octet_notMem_utf8 (by decide) (h.notMem List.mem_cons_self)

theorem qualified_ne_nil (q : Option String) {name : String} (h : name ≠ "") :
    qualified q name ≠ [] := by
  cases q with
  | none => simpa [qualified] using h
  | some q => exact List.append_ne_nil_of_right_ne_nil _ (List.cons_ne_nil _ _)

theorem isWord_qualifier {q : Option String} (h : ∀ w ∈ q, IsPrefixWord w) : ∀ w ∈ q, IsWord w :=
  fun w hw => (h w hw).word

theorem localPart_qualified {q : Option String} {name : String} (hq : ∀ w ∈ q, IsWord w)
    (hname : IsWord name) : localPart (utf8 (qualified q name)) = utf8 name.toList := by
  cases q with
  | none => exact localPart_of_notMem hname.colon_notMem
  | some q => rw [utf8_qualified_some, localPart_append (hq q rfl).colon_notMem]

theorem octetsOf_xmlns : octetsOf "xmlns" = utf8 "xmlns".toList := by decide

/-- The word before the colon of a declaration, or the whole of it. -/
theorem takeWhile_of_isDeclaration {key : Octets} (h : isDeclaration key = true) :
    key.takeWhile (· != octet ':') = octetsOf "xmlns" := by
  rw [isDeclaration, Bool.or_eq_true, beq_iff_eq, List.isPrefixOf_iff_prefix] at h
  rcases h with rfl | ⟨w, rfl⟩
  · rfl
  · rfl

/-- Only declarations start like declarations. -/
theorem isDeclaration_qualified {q : Option String} {name : String}
    (hq : ∀ w ∈ q, IsPrefixWord w) (hname : IsWord name) (hne : name ≠ "xmlns") :
    isDeclaration (utf8 (qualified q name)) = false := by
  rw [Bool.eq_false_iff]
  intro h
  have hword := takeWhile_of_isDeclaration h
  rw [octetsOf_xmlns] at hword
  cases q with
  | none =>
    rw [qualified, List.takeWhile_eq_self_iff.mpr (all_bne_of_notMem hname.colon_notMem)] at hword
    exact hne (String.toList_injective (utf8_injective hword))
  | some q =>
    have hq' : octet ':' ∉ utf8 q.toList := (hq q rfl).word.colon_notMem
    rw [utf8_qualified_some, List.takeWhile_append_of_pos (all_bne_of_notMem hq'),
      List.takeWhile_cons_of_neg (by simp), List.append_nil] at hword
    exact (hq q rfl).undeclared (String.toList_injective (utf8_injective hword))

namespace Item

/-- An item that says what it is read as: its attribute could not be taken for a declaration. -/
structure Readable (i : Item) : Prop where
  chosen : i.WellChosen
  named : ∀ a ∈ i.given?, IsWord a.name ∧ a.name ≠ "xmlns"

variable {i : Item}

theorem isDeclaration_key (h : i.Readable) :
    isDeclaration (utf8 i.key) = i.declared?.isSome := by
  rcases i with ⟨q, a⟩ | ⟨_ | w, uri⟩
  · obtain ⟨hword, hne⟩ := h.named a rfl
    exact isDeclaration_qualified h.chosen hword hne
  · rw [key, ← octetsOf_xmlns]
    rfl
  · have hkey : octetsOf "xmlns:" <+: utf8 (qualified (some "xmlns") w) :=
      ⟨utf8 w.toList, (utf8_qualified_some "xmlns" w).symm⟩
    rw [key, isDeclaration, List.isPrefixOf_iff_prefix.mpr hkey, Bool.or_true]
    rfl

theorem isPlain_of_mem_key (h : i.Readable) {b : UInt8} (hb : b ∈ utf8 i.key) : IsPlain b := by
  have hxmlns : IsWord "xmlns" := by decide +kernel
  rcases i with ⟨q, a⟩ | ⟨_ | w, uri⟩
  · exact isPlain_of_mem_qualified (isWord_qualifier h.chosen) (h.named a rfl).1 hb
  · exact isPlain_of_mem_qualified (q := none) nofun hxmlns hb
  · refine isPlain_of_mem_qualified (q := some "xmlns") (fun q hq => ?_) (h.chosen.1 w rfl) hb
    rwa [← Option.some_inj.mp hq]

theorem localPart_key {q : Option String} {a : Attribute} (h : (given q a).Readable) :
    localPart (utf8 (given q a).key) = utf8 a.name.toList :=
  localPart_qualified (isWord_qualifier h.chosen) (h.named a rfl).1

theorem attributeOf?_given {q : Option String} {a : Attribute} (h : (given q a).Readable) :
    attributeOf? (utf8 (given q a).key) (utf8 (given q a).value) = some a := by
  rw [attributeOf?, ofOctets?_utf8, Option.bind_some, String.toList_ofList, value, unescape_escape,
    Option.map_some, localPart_key h, lossy_utf8, String.ofList_toList]

theorem key_ne_nil (h : i.Readable) : i.key ≠ [] := by
  rcases i with ⟨q, a⟩ | ⟨_ | w, uri⟩
  · exact qualified_ne_nil q (h.named a rfl).1.nonempty
  · exact List.cons_ne_nil _ _
  · exact List.append_ne_nil_of_right_ne_nil _ (List.cons_ne_nil _ _)

/-- Declarations for different words have different keys. -/
theorem declared_key_inj {w w' : Option String} {uri uri' : String}
    (h : (declared w uri).key = (declared w' uri').key) : w = w' := by
  rcases w with _ | w <;> rcases w' with _ | w'
  · rfl
  · exact absurd (congrArg List.length h) (by simp [key, qualified])
  · exact absurd (congrArg List.length h) (by simp [key, qualified])
  · have hcons := List.append_cancel_left h
    exact congrArg some (String.toList_injective (List.cons.inj hcons).2)

end Item

/-! Attributes. -/

theorem scanAttributes_key {bs read rest : Octets} (h : ∀ b ∈ bs, IsPlain b) :
    scanAttributes (.key read) (bs ++ octet '=' :: rest) =
      scanAttributes (.beforeValue (read.reverse ++ bs)) rest := by
  induction bs generalizing read with
  | nil =>
    rw [List.nil_append, scanAttributes, if_pos (by simp), List.append_nil]
  | cons b bs ih =>
    rw [List.forall_mem_cons] at h
    rw [List.cons_append, scanAttributes, if_neg (by simpa using h.1.ne (m := '=') (by decide)),
      if_neg (by simp [h.1.isSpace]), ih h.2, List.reverse_cons, List.append_assoc,
      List.singleton_append]

theorem scanAttributes_value {key bs read rest : Octets} (h : octet '"' ∉ bs) :
    scanAttributes (.value key (octet '"') read) (bs ++ octet '"' :: rest) =
      (scanAttributes .between rest).map ((key, read.reverse ++ bs) :: ·) := by
  induction bs generalizing read with
  | nil => rw [List.nil_append, scanAttributes, if_pos (by simp), List.append_nil]
  | cons b bs ih =>
    rw [List.mem_cons, not_or] at h
    rw [List.cons_append, scanAttributes, if_neg (by simpa using Ne.symm h.1), ih h.2,
      List.reverse_cons, List.append_assoc, List.singleton_append]

theorem Item.utf8_chars (i : Item) :
    utf8 i.chars =
      octet ' ' :: (utf8 i.key ++ octet '=' :: octet '"' :: (utf8 i.value ++ [octet '"'])) := by
  rw [chars, utf8_cons_of_lt (by decide), utf8_append, utf8_cons_of_lt (by decide),
    utf8_cons_of_lt (by decide), utf8_append, utf8_cons_of_lt (by decide), utf8_nil]

/-- An item gives its key and its value. -/
theorem Item.scanAttributes {i : Item} (h : i.Readable) (rest : Octets) :
    scanAttributes .between (utf8 i.chars ++ rest) =
      (Xml.scanAttributes .between rest).map ((utf8 i.key, utf8 i.value) :: ·) := by
  have hplain : ∀ b ∈ utf8 i.key, IsPlain b := fun b => isPlain_of_mem_key h
  have hquote : octet '"' ∉ utf8 i.value := quote_notMem_utf8_value h.chosen
  have hne : utf8 i.key ≠ [] := fun hnil => key_ne_nil h (utf8_injective hnil)
  rw [utf8_chars]
  generalize utf8 i.key = key at hplain hne
  generalize utf8 i.value = value at hquote
  obtain ⟨first, more, rfl⟩ := List.exists_cons_of_ne_nil hne
  rw [List.forall_mem_cons] at hplain
  obtain ⟨hfirst, hmore⟩ := hplain
  have hafter :
      octet ' ' :: (first :: more ++ octet '=' :: octet '"' :: (value ++ [octet '"'])) ++ rest =
        octet ' ' :: first :: (more ++ octet '=' :: octet '"' :: (value ++ octet '"' :: rest)) := by
    simp
  calc Xml.scanAttributes .between _
      = Xml.scanAttributes .between
          (first :: (more ++ octet '=' :: octet '"' :: (value ++ octet '"' :: rest))) := by
        rw [hafter]
        rfl
    _ = Xml.scanAttributes (.key [first])
          (more ++ octet '=' :: octet '"' :: (value ++ octet '"' :: rest)) := by
        rw [Xml.scanAttributes, if_neg (by simp [hfirst.isSpace]),
          if_neg (by simpa using hfirst.ne (m := '=') (by decide))]
    _ = Xml.scanAttributes (.value (first :: more) (octet '"') [])
          (value ++ octet '"' :: rest) := by
        rw [scanAttributes_key hmore]
        rfl
    _ = _ := scanAttributes_value hquote

/-- The value of an item is in quotes. -/
theorem Item.keepsOpen {i : Item} (h : i.Readable) : KeepsOpen (utf8 i.chars) := by
  have hkey : KeepsOpen (utf8 i.key) := keepsOpen_of_plain fun b => isPlain_of_mem_key h
  have hvalue : KeepsOpen (octet '"' :: (utf8 i.value ++ [octet '"'])) :=
    keepsOpen_quoted (quote_notMem_utf8_value h.chosen)
  rw [utf8_chars]
  exact .cons (by decide) rfl (hkey.append (.cons (by decide) rfl hvalue))

theorem keepsOpen_items {items : List Item} (h : ∀ i ∈ items, i.Readable) :
    KeepsOpen (utf8 (items.flatMap Item.chars)) := by
  induction items with
  | nil => exact .nil
  | cons i items ih =>
    rw [List.forall_mem_cons] at h
    rw [List.flatMap_cons, utf8_append]
    exact (Item.keepsOpen h.1).append (ih h.2)

theorem scanAttributes_items {items : List Item} (h : ∀ i ∈ items, i.Readable) :
    scanAttributes .between (utf8 (items.flatMap Item.chars)) =
      some (items.map fun i => (utf8 i.key, utf8 i.value)) := by
  induction items with
  | nil => rfl
  | cons i items ih =>
    rw [List.forall_mem_cons] at h
    rw [List.flatMap_cons, utf8_append, Item.scanAttributes h.1, ih h.2]
    rfl

/-- Declarations are dropped, and the other items are the attributes. -/
theorem mapM_attributeOf?_items {items : List Item} (h : ∀ i ∈ items, i.Readable) :
    ((items.map fun i => (utf8 i.key, utf8 i.value)).filter fun p => !isDeclaration p.1).mapM
      (fun p => attributeOf? p.1 p.2) = some (items.filterMap Item.given?) := by
  induction items with
  | nil => rfl
  | cons i items ih =>
    rw [List.forall_mem_cons] at h
    obtain ⟨hi, hrest⟩ := h
    rw [List.map_cons, List.filter_cons, Item.isDeclaration_key hi]
    cases i with
    | given q a =>
      have hkept : (!(Item.given q a).declared?.isSome) = true := rfl
      rw [if_pos hkept, List.mapM_cons, ih hrest, Item.attributeOf?_given hi]
      rfl
    | declared w uri => exact ih hrest

/-- Items that say different things have different keys. -/
theorem nodup_keys {items : List Item} (h : ∀ i ∈ items, i.Readable)
    (hgiven : ((items.filterMap Item.given?).map (·.name)).Nodup)
    (hdeclared : (items.filterMap Item.declared?).Nodup) :
    (items.map fun i => utf8 i.key).Nodup := by
  rw [List.nodup_iff_pairwise_ne, List.pairwise_map, List.pairwise_filterMap] at hgiven
  rw [List.nodup_iff_pairwise_ne, List.pairwise_filterMap] at hdeclared
  rw [List.nodup_iff_pairwise_ne, List.pairwise_map]
  refine (hgiven.and hdeclared).imp_of_mem fun {i i'} hi hi' hapart hkey => ?_
  have hi := h i hi
  have hi' := h i' hi'
  have hsame : i.declared?.isSome = i'.declared?.isSome := by
    rw [← Item.isDeclaration_key hi, hkey, Item.isDeclaration_key hi']
  rcases i with ⟨q, a⟩ | ⟨w, uri⟩ <;> rcases i' with ⟨q', a'⟩ | ⟨w', uri'⟩
  · have hname : utf8 a.name.toList = utf8 a'.name.toList := by
      rw [← Item.localPart_key hi, ← Item.localPart_key hi', hkey]
    exact hapart.1 a rfl a' rfl (String.toList_injective (utf8_injective hname))
  · cases hsame
  · cases hsame
  · exact hapart.2 w rfl w' rfl (Item.declared_key_inj (utf8_injective hkey))

namespace Tag

/-- A tag of a well-named element. -/
structure Readable (tag : Tag) : Prop where
  chosen : tag.WellChosen
  word : IsWord tag.name
  named : AreNamed tag.attributes

variable {tag : Tag}

theorem Readable.items (h : tag.Readable) : ∀ i ∈ tag.items, i.Readable := by
  intro i hi
  refine ⟨h.chosen.items i hi, fun a ha => ?_⟩
  have hmem : a ∈ tag.attributes := List.mem_filterMap.mpr ⟨i, hi, ha⟩
  exact ⟨h.named.words a hmem, h.named.undeclared a hmem⟩

theorem attributes?_items (h : tag.Readable) :
    attributes? (utf8 (tag.items.flatMap Item.chars)) = some tag.attributes := by
  have hnodup : ((tag.items.map fun i => (utf8 i.key, utf8 i.value)).map (·.1)).Nodup := by
    rw [List.map_map]
    exact nodup_keys h.items h.named.nodup h.chosen.nodup
  rw [attributes?, scanAttributes_items h.items, Option.bind_some, if_pos hnodup,
    mapM_attributeOf?_items h.items, attributes]

/-! The name of a tag. -/

theorem utf8_chars (tag : Tag) :
    utf8 tag.chars = utf8 tag.fullName ++ utf8 (tag.items.flatMap Item.chars) :=
  utf8_append _ _

theorem utf8_startChars (tag : Tag) :
    utf8 tag.startChars = octet '<' :: (utf8 tag.chars ++ [octet '>']) := by
  rw [startChars, utf8_cons_of_lt (by decide), utf8_append]
  rfl

theorem utf8_endChars (tag : Tag) :
    utf8 tag.endChars = octet '<' :: octet '/' :: (utf8 tag.fullName ++ [octet '>']) := by
  rw [endChars, utf8_cons_of_lt (by decide), utf8_cons_of_lt (by decide), utf8_append]
  rfl

theorem utf8_emptyChars (tag : Tag) :
    utf8 tag.emptyChars = octet '<' :: (utf8 tag.chars ++ [octet '/', octet '>']) := by
  rw [emptyChars, utf8_cons_of_lt (by decide), utf8_append]
  rfl

theorem isPlain_of_mem_fullName (h : tag.Readable) {b : UInt8} (hb : b ∈ utf8 tag.fullName) :
    IsPlain b :=
  isPlain_of_mem_qualified (isWord_qualifier h.chosen.qualifier) h.word hb

theorem lossy_localPart_fullName (h : tag.Readable) :
    lossy (localPart (utf8 tag.fullName)) = tag.name := by
  rw [fullName, localPart_qualified (isWord_qualifier h.chosen.qualifier) h.word, lossy_utf8]

/-- The items start with white space, which ends the name. -/
theorem splitName_chars (h : tag.Readable) :
    splitName (utf8 tag.chars) = (utf8 tag.fullName, utf8 (tag.items.flatMap Item.chars)) := by
  have hfull : ∀ b ∈ utf8 tag.fullName, (!isSpace b) = true := fun b hb => by
    rw [(isPlain_of_mem_fullName h hb).isSpace]
    rfl
  rw [splitName, utf8_chars, List.takeWhile_append_of_pos hfull, List.dropWhile_append_of_pos hfull]
  cases tag.items with
  | nil => simp
  | cons i items =>
    rw [List.flatMap_cons, utf8_append, Item.utf8_chars, List.cons_append,
      List.takeWhile_cons_of_neg (by decide), List.dropWhile_cons_of_neg (by decide),
      List.append_nil]

theorem fullName_ne_nil (h : tag.Readable) : utf8 tag.fullName ≠ [] := fun hnil =>
  qualified_ne_nil tag.qualifier h.word.nonempty (utf8_injective hnil)

theorem closingName_fullName (h : tag.Readable) :
    closingName (utf8 tag.fullName) = utf8 tag.fullName := by
  have hplain : ∀ b ∈ (utf8 tag.fullName).reverse, IsPlain b := fun b hb =>
    isPlain_of_mem_fullName h (List.mem_reverse.mp hb)
  obtain ⟨last, before, hreverse⟩ :=
    List.exists_cons_of_ne_nil fun hnil => fullName_ne_nil h (List.reverse_eq_nil_iff.mp hnil)
  have hlast : isSpace last = false := (hplain last (by simp [hreverse])).isSpace
  rw [closingName, hreverse, List.dropWhile_cons_of_neg (by simp [hlast])]
  dsimp only
  rw [← hreverse, List.reverse_reverse]

/-- A tag with items ends in a quote, and one without them in its name. -/
theorem getLast?_chars (h : tag.Readable) :
    (utf8 tag.chars).getLast? ≠ some (octet '/') := by
  intro hslash
  rw [utf8_chars] at hslash
  rcases List.eq_nil_or_concat tag.items with hnil | ⟨items, i, hitems⟩
  · rw [hnil, List.flatMap_nil, utf8_nil, List.append_nil] at hslash
    exact (isPlain_of_mem_fullName h (List.mem_of_getLast? hslash)).ne
      (m := '/') (by decide) rfl
  · have hend : utf8 tag.fullName ++ utf8 (tag.items.flatMap Item.chars) =
        utf8 tag.fullName ++ utf8 (items.flatMap Item.chars) ++
          octet ' ' :: (utf8 i.key ++ octet '=' :: octet '"' :: utf8 i.value) ++ [octet '"'] := by
      simp [hitems, Item.utf8_chars]
    rw [hend, List.getLast?_concat] at hslash
    exact absurd hslash (by decide)

theorem splitEmptyMark_chars (h : tag.Readable) :
    splitEmptyMark (utf8 tag.chars) = (utf8 tag.chars, false) := by
  rw [splitEmptyMark, if_neg (by simpa using getLast?_chars h)]

/-! Where a tag ends. -/

/-- All octets of a tag but the first leave it open. -/
theorem exists_utf8_chars (h : tag.Readable) :
    ∃ first more, utf8 tag.chars = first :: more ∧ IsPlain first ∧ KeepsOpen more := by
  have hplain : ∀ b ∈ utf8 tag.fullName, IsPlain b := fun b => isPlain_of_mem_fullName h
  obtain ⟨first, more, hfull⟩ := List.exists_cons_of_ne_nil (fullName_ne_nil h)
  rw [hfull, List.forall_mem_cons] at hplain
  refine ⟨first, more ++ utf8 (tag.items.flatMap Item.chars), ?_, hplain.1,
    (keepsOpen_of_plain hplain.2).append (keepsOpen_items h.items)⟩
  rw [utf8_chars, hfull]
  rfl

/-- A tag that ends in `mark`. -/
theorem exists_scan_chars (h : tag.Readable) {mark : Octets} (hmark : KeepsOpen mark)
    (position : Nat) (rest : Octets) :
    ∃ position', scan .text position (octet '<' :: (utf8 tag.chars ++ mark ++ octet '>' :: rest)) =
      .opening (utf8 tag.chars ++ mark) :: scan .text position' rest := by
  obtain ⟨first, more, hchars, hfirst, hmore⟩ := exists_utf8_chars h
  rw [hchars, List.cons_append, List.cons_append]
  exact ⟨_, scan_opening hfirst (hmore.append hmark)⟩

end Tag

theorem splitEmptyMark_concat (bs : Octets) : splitEmptyMark (bs ++ [octet '/']) = (bs, true) := by
  rw [splitEmptyMark, List.getLast?_concat, if_pos (by simp), List.dropLast_concat]

end DataLayer.Xml
