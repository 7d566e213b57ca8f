import MailScript.Text.Encoding

/-! # Texts read back from their bytes

A text that has been encoded in UTF-8 is decoded to the same text. It does not matter where the
pieces of a stream cut it: the bytes of a character that a piece cuts are kept until the next
piece. -/

namespace MailScript.Text

/-! ## The bytes of a text -/

theorem toList_loop_eq (bytes : ByteArray) (place : Nat) (done : List UInt8) :
    ByteArray.toList.loop bytes place done = done.reverse ++ bytes.data.toList.drop place := by
  fun_induction ByteArray.toList.loop bytes place done with
  | case1 place done hlt ih =>
      have hlength : place < bytes.data.toList.length := by simpa using hlt
      rw [ih, List.drop_eq_getElem_cons hlength]
      simp [ByteArray.get!, hlt]
  | case2 place done hge =>
      rw [List.drop_eq_nil_of_le (by simpa using Nat.le_of_not_lt hge), List.append_nil]

/-- The bytes of a text are those of its characters. -/
theorem encodeUtf8_eq_flatMap (text : String) :
    encodeUtf8 text = text.toList.flatMap String.utf8EncodeChar := by
  have hbytes : text.toUTF8 = (text.toList.flatMap String.utf8EncodeChar).toByteArray := by
    have htext : text.toUTF8 = (String.ofList text.toList).toByteArray := by
      rw [String.ofList_toList]
      rfl
    exact htext.trans String.toByteArray_ofList
  rw [encodeUtf8, hbytes, ByteArray.toList, toList_loop_eq]
  simp

/-! ## The bytes of a character -/

/-- The bytes that a character may be read from. -/
inductive Encodes (c : Char) : List UInt8 → Prop where
  | one {first : UInt8} (hfirst : first.toNat < 128) (hc : Char.ofNat first.toNat = c) :
      Encodes c [first]
  | two {first second : UInt8} (hlow : 0xC2 ≤ first.toNat) (hhigh : first.toNat < 0xE0)
      (hsecond : allowsSecond first second)
      (hc : Char.ofNat (first.toNat % 32 * 64 + continuationBits second) = c) :
      Encodes c [first, second]
  | three {first second third : UInt8} (hlow : 0xE0 ≤ first.toNat) (hhigh : first.toNat < 0xF0)
      (hsecond : allowsSecond first second) (hthird : isContinuation third)
      (hc : Char.ofNat ((first.toNat % 16 * 64 + continuationBits second) * 64
        + continuationBits third) = c) :
      Encodes c [first, second, third]
  | four {first second third fourth : UInt8} (hlow : 0xF0 ≤ first.toNat)
      (hhigh : first.toNat < 0xF5) (hsecond : allowsSecond first second)
      (hthird : isContinuation third) (hfourth : isContinuation fourth)
      (hc : Char.ofNat (((first.toNat % 8 * 64 + continuationBits second) * 64
        + continuationBits third) * 64 + continuationBits fourth) = c) :
      Encodes c [first, second, third, fourth]

/-- A continuation byte carries six bits. -/
theorem continuationBits_ofNat {bits : Nat} (h : bits < 64) :
    continuationBits (UInt8.ofNat (bits + 128)) = bits := by
  rw [continuationBits, UInt8.toNat_ofNat_of_lt' (show bits + 128 < 256 by omega)]
  omega

theorem isContinuation_ofNat {bits : Nat} (h : bits < 64) :
    isContinuation (UInt8.ofNat (bits + 128)) := by
  rw [isContinuation, UInt8.toNat_ofNat_of_lt' (show bits + 128 < 256 by omega), Bool.and_eq_true,
    decide_eq_true_eq, decide_eq_true_eq]
  omega

/-- The first two bytes of a longer character are allowed if it is neither encoded in more bytes
than it needs, nor a surrogate, nor beyond the last plane. -/
theorem allowsSecond_ofNat {lead bits : Nat} (hlead : lead < 256) (hbits : bits < 64)
    (hE0 : lead = 0xE0 → 32 ≤ bits) (hED : lead = 0xED → bits < 32) (hF0 : lead = 0xF0 → 16 ≤ bits)
    (hF4 : lead = 0xF4 → bits < 16) :
    allowsSecond (UInt8.ofNat lead) (UInt8.ofNat (bits + 128)) := by
  have hsecond := UInt8.toNat_ofNat_of_lt' (show bits + 128 < 256 by omega)
  rw [allowsSecond, isContinuation_ofNat hbits, Bool.true_and, hsecond,
    UInt8.toNat_ofNat_of_lt' hlead]
  split
  · exact decide_eq_true (by have := hE0 rfl; omega)
  · exact decide_eq_true (by have := hED rfl; omega)
  · exact decide_eq_true (by have := hF0 rfl; omega)
  · exact decide_eq_true (by have := hF4 rfl; omega)
  · rfl

theorem encodes_utf8EncodeChar (c : Char) : Encodes c (String.utf8EncodeChar c) := by
  have hvalid : c.val.toNat < 0xD800 ∨ 0xDFFF < c.val.toNat ∧ c.val.toNat < 0x110000 := c.valid
  have hchar {number : Nat} (h : number = c.val.toNat) : Char.ofNat number = c :=
    h ▸ Char.ofNat_toNat c
  unfold String.utf8EncodeChar
  dsimp only
  generalize c.val.toNat = code at *
  split
  · have hfirst := UInt8.toNat_ofNat_of_lt' (show code < 256 by omega)
    exact .one (by omega) (hchar hfirst)
  split
  · have hfirst := UInt8.toNat_ofNat_of_lt' (show code / 64 % 32 + 192 < 256 by omega)
    refine .two (by omega) (by omega) ?_ (hchar ?_)
    · apply allowsSecond_ofNat <;> omega
    · rw [hfirst, continuationBits_ofNat (by omega)]
      omega
  split
  · have hfirst := UInt8.toNat_ofNat_of_lt' (show code / 4096 % 16 + 224 < 256 by omega)
    refine .three (by omega) (by omega) ?_ (isContinuation_ofNat (by omega)) (hchar ?_)
    · apply allowsSecond_ofNat <;> omega
    · rw [hfirst, continuationBits_ofNat (by omega), continuationBits_ofNat (by omega)]
      omega
  · have hfirst := UInt8.toNat_ofNat_of_lt' (show code / 262144 % 8 + 240 < 256 by omega)
    refine .four (by omega) (by omega) ?_ (isContinuation_ofNat (by omega))
      (isContinuation_ofNat (by omega)) (hchar ?_)
    · apply allowsSecond_ofNat <;> omega
    · rw [hfirst, continuationBits_ofNat (by omega), continuationBits_ofNat (by omega),
        continuationBits_ofNat (by omega)]
      omega

/-- Two bytes that may start a character are not the first two of a surrogate. -/
theorem isCutSurrogate_of_allowsSecond {first second : UInt8} (h : allowsSecond first second)
    (rest : List UInt8) : isCutSurrogate (first :: second :: rest) = false := by
  cases rest with
  | nil => simp [isCutSurrogate, h]
  | cons _ _ => rfl

/-- The first byte of a longer character is told from those that are a character or start none. -/
theorem lead_long {lead : Nat} (hlow : 0xC2 ≤ lead) (hhigh : lead < 0xF5) :
    ¬lead < 128 ∧ ¬lead < 0xC2 ∧ ¬0xF5 ≤ lead := by
  omega

/-- A character is read from its bytes, whatever follows them. -/
theorem firstCharacter_append {c : Char} {first : UInt8} {others : List UInt8}
    (h : Encodes c (first :: others)) (rest : List UInt8) :
    firstCharacter first (others ++ rest) = .char c (others.length + 1) := by
  cases h with
  | one hfirst hc => simp [firstCharacter, hfirst, hc]
  | two hlow hhigh hsecond hc =>
      have hlead := lead_long hlow (by omega)
      simp [firstCharacter, hlead, isCutSurrogate_of_allowsSecond hsecond, hsecond, hhigh, hc]
  | three hlow hhigh hsecond hthird hc =>
      have hlead := lead_long (show 0xC2 ≤ first.toNat by omega) (by omega)
      have hlong : ¬first.toNat < 0xE0 := by omega
      simp [firstCharacter, hlead, isCutSurrogate_of_allowsSecond hsecond, hsecond, hlong, hthird,
        hhigh, hc]
  | four hlow hhigh hsecond hthird hfourth hc =>
      have hlead := lead_long (show 0xC2 ≤ first.toNat by omega) hhigh
      have hlong : ¬first.toNat < 0xE0 ∧ ¬first.toNat < 0xF0 := by omega
      simp [firstCharacter, hlead, isCutSurrogate_of_allowsSecond hsecond, hsecond, hlong, hthird,
        hfourth, hc]

theorem Encodes.length_le {c : Char} {bytes : List UInt8} (h : Encodes c bytes) :
    bytes.length ≤ 4 := by
  cases h <;> simp

/-- The beginning of the bytes of a character is unfinished. -/
theorem firstCharacter_of_cut {c : Char} {first : UInt8} {front back : List UInt8}
    (h : Encodes c (first :: (front ++ back))) (hback : back ≠ []) :
    firstCharacter first front = .unfinished := by
  match front, h with
  | [], h =>
      have hlead : ¬first.toNat < 128 ∧ ¬first.toNat < 0xC2 ∧ ¬0xF5 ≤ first.toNat := by
        cases h with
        | one => exact absurd rfl hback
        | two hlow hhigh => omega
        | three hlow hhigh => omega
        | four hlow hhigh => omega
      simp [firstCharacter, hlead]
  | [second], h =>
      have hlong : 0xE0 ≤ first.toNat ∧ first.toNat < 0xF5 ∧ allowsSecond first second := by
        cases h with
        | two => exact absurd rfl hback
        | three hlow hhigh hsecond => exact ⟨hlow, by omega, hsecond⟩
        | four hlow hhigh hsecond => exact ⟨by omega, hhigh, hsecond⟩
      obtain ⟨hlow, hhigh, hsecond⟩ := hlong
      have hlead := lead_long (show 0xC2 ≤ first.toNat by omega) hhigh
      have hlong : ¬first.toNat < 0xE0 := by omega
      simp [firstCharacter, hlead, isCutSurrogate_of_allowsSecond hsecond, hsecond, hlong]
  | [second, third], h =>
      cases h with
      | three => exact absurd rfl hback
      | four hlow hhigh hsecond hthird =>
          have hlead := lead_long (show 0xC2 ≤ first.toNat by omega) hhigh
          have hlong : ¬first.toNat < 0xE0 ∧ ¬first.toNat < 0xF0 := by omega
          simp [firstCharacter, hlead, isCutSurrogate_of_allowsSecond hsecond, hsecond, hlong,
            hthird]
  | second :: third :: fourth :: others, h =>
      have hlength := h.length_le
      have hpos := List.length_pos_iff.mpr hback
      simp only [List.cons_append, List.length_cons, List.length_append] at hlength
      omega

/-! ## Decoding -/

/-- Bytes that a character starts with and does not end with; there may be none. -/
def IsCut (bytes : List UInt8) : Prop :=
  ∃ c, bytes <+: String.utf8EncodeChar c ∧ bytes ≠ String.utf8EncodeChar c

/-- The bytes of characters. -/
def encoded (text : List Char) : List UInt8 :=
  text.flatMap String.utf8EncodeChar

theorem isCut_nil : IsCut [] :=
  ⟨'a', List.nil_prefix, by decide⟩

theorem length_le_length_encoded (text : List Char) : text.length ≤ (encoded text).length := by
  induction text with
  | nil => exact Nat.le_refl 0
  | cons c rest ih =>
      have hpos := List.length_pos_iff.mpr (String.utf8EncodeChar_ne_nil (c := c))
      simp only [encoded, List.flatMap_cons, List.length_append, List.length_cons] at ih ⊢
      omega

/-- Characters are decoded up to bytes that are cut. -/
theorem decodeUtf8From_append {fuel : Nat} {text : List Char} (hfuel : text.length ≤ fuel)
    (position : Nat) {rest : List UInt8} (hrest : IsCut rest) :
    decodeUtf8From fuel position (encoded text ++ rest) = .ok (text, rest) := by
  induction text generalizing fuel position with
  | nil =>
      change decodeUtf8From fuel position rest = .ok ([], rest)
      match fuel, rest with
      | 0, rest => rw [decodeUtf8From]
      | fuel + 1, [] => rw [decodeUtf8From]
      | fuel + 1, first :: front =>
          obtain ⟨c, ⟨back, hback⟩, hne⟩ := hrest
          have hencodes : Encodes c (first :: (front ++ back)) := by
            rw [← List.cons_append, hback]
            exact encodes_utf8EncodeChar c
          have hnonempty : back ≠ [] := by
            rintro rfl
            exact hne (by rw [← hback, List.append_nil])
          rw [decodeUtf8From, firstCharacter_of_cut hencodes hnonempty]
  | cons c text ih =>
      match fuel, hfuel with
      | fuel + 1, hfuel =>
        obtain ⟨first, others, hbytes⟩ :=
          List.exists_cons_of_ne_nil (String.utf8EncodeChar_ne_nil (c := c))
        have hencodes : Encodes c (first :: others) := hbytes ▸ encodes_utf8EncodeChar c
        have hlist : encoded (c :: text) ++ rest = first :: (others ++ (encoded text ++ rest)) := by
          rw [encoded, List.flatMap_cons, hbytes, ← encoded, List.append_assoc, List.cons_append]
        have hdrop : (first :: (others ++ (encoded text ++ rest))).drop (others.length + 1) =
            encoded text ++ rest := by
          rw [List.drop_succ_cons, List.drop_left]
        rw [hlist, decodeUtf8From, firstCharacter_append hencodes]
        dsimp only
        rw [hdrop, ih (Nat.le_of_succ_le_succ hfuel)]

theorem decodePiece_encoded (text : List Char) {rest : List UInt8} (hrest : IsCut rest) :
    decodePiece .utf8 (encoded text ++ rest) = .ok (text, rest) := by
  refine decodeUtf8From_append ?_ 0 hrest
  rw [List.length_append]
  exact Nat.le_add_right_of_le (length_le_length_encoded text)

/-- A text is decoded from its bytes. -/
theorem decode_encodeUtf8 (text : String) : decode .utf8 (encodeUtf8 text) = .ok text.toList := by
  have hpiece := decodePiece_encoded text.toList isCut_nil
  rw [List.append_nil] at hpiece
  rw [encodeUtf8_eq_flatMap, decode, ← encoded, hpiece]

/-! ## Pieces of a stream -/

/-- The beginning of the bytes of a text is that of a part of the text and of one more character. -/
theorem exists_cut {text : List Char} {front back : List UInt8}
    (h : front ++ back = encoded text) :
    ∃ done rest cut, text = done ++ rest ∧ front = encoded done ++ cut ∧ IsCut cut ∧
      cut ++ back = encoded rest := by
  induction text generalizing front with
  | nil =>
      obtain ⟨rfl, rfl⟩ := List.append_eq_nil_iff.mp h
      exact ⟨[], [], [], rfl, rfl, isCut_nil, rfl⟩
  | cons c text ih =>
      by_cases hshort : front.length < (String.utf8EncodeChar c).length
      · have hcut : front <+: String.utf8EncodeChar c :=
          List.prefix_of_prefix_length_le ⟨back, h⟩ (List.prefix_append _ _)
            (Nat.le_of_lt hshort)
        refine ⟨[], c :: text, front, rfl, rfl, ⟨c, hcut, ?_⟩, h⟩
        rintro rfl
        exact Nat.lt_irrefl _ hshort
      · obtain ⟨later, rfl⟩ : String.utf8EncodeChar c <+: front :=
          List.prefix_of_prefix_length_le (List.prefix_append _ _) ⟨back, h⟩ (by omega)
        have hlater : later ++ back = encoded text := by
          rw [List.append_assoc] at h
          exact List.append_cancel_left h
        obtain ⟨done, rest, cut, rfl, rfl, hcut, hrest⟩ := ih hlater
        exact ⟨c :: done, rest, cut, rfl, by rw [← List.append_assoc]; rfl, hcut, hrest⟩

/-- Bytes that are cut are not those of a text, unless there are none. -/
theorem eq_nil_of_isCut_encoded {text : List Char} (h : IsCut (encoded text)) : text = [] := by
  have hcomplete := decodeUtf8From_append (length_le_length_encoded text) 0 isCut_nil
  have hnone : ([] : List Char).length ≤ (encoded text).length := Nat.zero_le _
  have hunfinished : decodeUtf8From (encoded text).length 0 (encoded text) =
      .ok ([], encoded text) := decodeUtf8From_append hnone 0 h
  rw [List.append_nil] at hcomplete
  exact congrArg Prod.fst (Except.ok.inj (hcomplete.symm.trans hunfinished))

/-- A stream of the bytes of a text brings the lines of the text, whatever its pieces are. -/
theorem decodePieces_encoded {pieces : List (List UInt8)} {text rest : List Char}
    {pending : List UInt8} (hpending : IsCut pending)
    (h : pending ++ pieces.flatten = encoded rest) :
    decodePieces .utf8 pieces text pending = (splitLines (text ++ rest), none) := by
  induction pieces generalizing text rest pending with
  | nil =>
      rw [List.flatten_nil, List.append_nil] at h
      subst h
      rw [eq_nil_of_isCut_encoded hpending, List.append_nil]
      rfl
  | cons piece pieces ih =>
      rw [List.flatten_cons, ← List.append_assoc] at h
      obtain ⟨done, rest, cut, rfl, hfront, hcut, hrest⟩ := exists_cut h
      rw [decodePieces, hfront, decodePiece_encoded done hcut]
      dsimp only
      rw [ih hcut hrest, List.append_assoc]

theorem flatten_pieces {size fuel : Nat} {bytes : List UInt8} (h : bytes.length ≤ size * fuel) :
    (pieces size fuel bytes).flatten = bytes := by
  fun_induction pieces size fuel bytes with
  | case1 bytes => exact (List.length_eq_zero_iff.mp (Nat.le_zero.mp h)).symm
  | case2 => rfl
  | case3 fuel bytes _ ih =>
      have hdrop : (bytes.drop size).length ≤ size * fuel := by
        rw [Nat.mul_succ] at h
        rw [List.length_drop]
        omega
      rw [List.flatten_cons, ih hdrop, List.take_append_drop]

/-- The lines of a text are read from a stream of its bytes. -/
theorem decodeStream_encodeUtf8 (text : String) :
    decodeStream .utf8 (encodeUtf8 text) = (splitLines text.toList, none) := by
  have hpieces := flatten_pieces (Nat.le_of_lt
    (Nat.lt_mul_div_succ (encodeUtf8 text).length (show 0 < pieceSize by decide)))
  have hencoded : encodeUtf8 text = encoded text.toList := encodeUtf8_eq_flatMap text
  rw [decodeStream]
  exact decodePieces_encoded isCut_nil (hpieces.trans hencoded)

end MailScript.Text
