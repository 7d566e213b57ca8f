import MailScript.Proofs.Results
import MailScript.Proofs.Text
import MailScript.Proofs.Text.Encoding
import MailScript.Script.Compilation

/-! # Sources that agree

The same script can be given as a text, as bytes, or as a stream of either, and its lines can have
one ending or another. What comes of it is the same as long as its lines are. -/

namespace MailScript

namespace Text

/-! ## Endings of lines -/

/-- Every carriage return has a line feed right behind it. -/
def Paired (text : List Char) : Prop :=
  ∀ place, text[place]? = some '\r' → text[place + 1]? = some '\n'

instance (text : List Char) : Decidable (Paired text) :=
  decidable_of_iff
    (∀ place < text.length, text[place]? = some '\r' → text[place + 1]? = some '\n')
    ⟨fun h place hplace => h place (List.getElem?_eq_some_iff.mp hplace).1 hplace,
      fun h place _ => h place⟩

/-- A text with a line feed in the place of every carriage return and line feed in this order. -/
def joinPairs : List Char → List Char
  | [] => []
  | '\r' :: '\n' :: rest => '\n' :: joinPairs rest
  | c :: rest => c :: joinPairs rest

/-- A text with other characters in the place of every line feed. -/
def replaceFeeds (ending : List Char) (text : List Char) : List Char :=
  text.flatMap fun c => if c = '\n' then ending else [c]

theorem Paired.tail {c : Char} {rest : List Char} (h : Paired (c :: rest)) : Paired rest :=
  fun place => h (place + 1)

/-- If carriage returns are paired, only line feeds stand alone. -/
theorem Paired.eq_feed {c : Char} {rest : List Char} (h : Paired (c :: rest))
    (halone : ∀ later, c = '\r' → rest = '\n' :: later → False) (hc : isLineBreak c) :
    c = '\n' := by
  rcases (by simpa [isLineBreak] using hc : c = '\r' ∨ c = '\n') with rfl | hfeed
  · have hsecond : rest[0]? = some '\n' := h 0 rfl
    obtain ⟨later, hlater⟩ := List.head?_eq_some_iff.mp (List.head?_eq_getElem? ▸ hsecond)
    exact absurd hlater (halone later rfl)
  · exact hfeed

theorem dropLineBreaks_cons {c : Char} (h : isLineBreak c = false) (line : List Char) :
    dropLineBreaks (c :: line) = c :: dropLineBreaks line := by
  have hkept : (line.reverse ++ [c]).dropWhile isLineBreak =
      line.reverse.dropWhile isLineBreak ++ [c] := by
    rw [List.dropWhile_append]
    split
    · rename_i hempty
      rw [List.isEmpty_iff.mp hempty, List.dropWhile_cons_of_neg (by simp [h]), List.nil_append]
    · rfl
  rw [dropLineBreaks, List.reverse_cons, hkept, List.reverse_append]
  rfl

theorem map_pushFront {c : Char} (h : isLineBreak c = false) (lines : List (List Char)) :
    (pushFront c lines).map dropLineBreaks = pushFront c (lines.map dropLineBreaks) := by
  cases lines with
  | nil => exact congrArg (fun line => [line]) (dropLineBreaks_cons h [])
  | cons line rest => rw [pushFront, List.map_cons, List.map_cons, dropLineBreaks_cons h, pushFront]

/-- A text that is read as a stream of records has the same lines if its carriage returns are
paired. -/
theorem map_splitRecords {text : List Char} (h : Paired text) :
    (splitRecords text).map dropLineBreaks = splitLines text := by
  fun_induction splitLines text with
  | case1 => rfl
  | case2 rest ih =>
      have hrecords : splitRecords ('\r' :: '\n' :: rest) = ['\r'] :: splitRecords rest := rfl
      rw [hrecords, List.map_cons, ih h.tail.tail]
      rfl
  | case3 c rest halone hc ih =>
      rw [splitRecords, if_pos (h.eq_feed halone hc), List.map_cons, ih h.tail]
      rfl
  | case4 c rest _ hc ih =>
      have hplain : isLineBreak c = false := Bool.eq_false_iff.mpr hc
      have hfeed : c ≠ '\n' := by
        rintro rfl
        exact hc rfl
      rw [splitRecords, if_neg hfeed, map_pushFront hplain, ih h.tail]

/-- Paired carriage returns may be left out. -/
theorem splitLines_joinPairs {text : List Char} (h : Paired text) :
    splitLines (joinPairs text) = splitLines text := by
  fun_induction splitLines text with
  | case1 => rfl
  | case2 rest ih => rw [joinPairs, splitLines_feed, ih h.tail.tail]
  | case3 c rest halone hc ih =>
      cases h.eq_feed halone hc
      rw [joinPairs, splitLines_feed, ih h.tail]
      exact halone
  | case4 c rest halone hc ih =>
      rw [joinPairs, splitLines_cons (Bool.eq_false_iff.mpr hc), ih h.tail]
      exact halone

theorem replaceFeeds_cons (ending : List Char) (c : Char) (rest : List Char) :
    replaceFeeds ending (c :: rest) =
      (if c = '\n' then ending else [c]) ++ replaceFeeds ending rest :=
  List.flatMap_cons

theorem feed_not_mem_replaceFeeds {ending : List Char} (h : '\n' ∉ ending) (text : List Char) :
    '\n' ∉ replaceFeeds ending text := by
  intro hmem
  obtain ⟨c, -, hc⟩ := List.mem_flatMap.mp hmem
  split at hc
  · exact h hc
  · exact absurd (List.mem_singleton.mp hc).symm ‹_›

/-- Lines that end at line feeds only may have one of the other endings instead. -/
theorem splitLines_replaceFeeds {text : List Char} (h : '\r' ∉ text) {ending : List Char}
    (hending : ending = ['\r'] ∨ ending = ['\r', '\n']) :
    splitLines (replaceFeeds ending text) = splitLines text := by
  induction text with
  | nil => rfl
  | cons c rest ih =>
      rw [List.mem_cons, not_or] at h
      rw [replaceFeeds_cons]
      split
      · rename_i hc
        subst hc
        rw [splitLines_feed, ← ih h.2]
        rcases hending with rfl | rfl
        · exact splitLines_return fun hhead =>
            feed_not_mem_replaceFeeds (by decide) rest (List.mem_of_mem_head? hhead)
        · rw [List.cons_append, List.cons_append, splitLines, List.nil_append]
      · rename_i hc
        have hplain : isLineBreak c = false := by simp [isLineBreak, Ne.symm h.1, hc]
        rw [List.singleton_append, splitLines_cons hplain, splitLines_cons hplain, ih h.2]

end Text

namespace Script

/-! ## Sources of one text -/

theorem transcript_bytes_encodeUtf8 {encoding : String}
    (hencoding : Text.Encoding.ofName? encoding = some .utf8) (text : String) :
    (Source.bytes (Text.encodeUtf8 text)).transcript encoding =
      (Source.text text).transcript encoding := by
  unfold Source.transcript
  simp only [hencoding, Transcript.ofBytes, Text.decode_encodeUtf8]

theorem transcript_stream_encodeUtf8 {encoding : String}
    (hencoding : Text.Encoding.ofName? encoding = some .utf8) (text : String) :
    (Source.stream (Text.encodeUtf8 text)).transcript encoding =
      (Source.text text).transcript encoding := by
  unfold Source.transcript
  simp only [hencoding, Transcript.ofStream, Text.decodeStream_encodeUtf8]
  rfl

/-- A text compiles as its bytes do and as a stream of them does. If its carriage returns are
paired, it also compiles as a stream of characters and without the carriage returns. If it has no
carriage returns, it compiles with any endings of lines in the place of its line feeds. -/
theorem compile_sources_agree {encoding : String}
    (hencoding : Text.Encoding.ofName? encoding = some .utf8) (setting : Setting) (text : String) :
    let compiled (source : Source) := compile setting (source.transcript encoding)
    compiled (.bytes (Text.encodeUtf8 text)) = compiled (.text text) ∧
      compiled (.stream (Text.encodeUtf8 text)) = compiled (.text text) ∧
      (Text.Paired text.toList →
        compiled (.characters text) = compiled (.text text) ∧
          compiled (.text (.ofList (Text.joinPairs text.toList))) = compiled (.text text)) ∧
      ('\r' ∉ text.toList → ∀ ending, ending = ['\r'] ∨ ending = ['\r', '\n'] →
        compiled (.text (.ofList (Text.replaceFeeds ending text.toList))) =
          compiled (.text text)) := by
  intro compiled
  have hlines {source : Source} {lines : List Line}
      (htranscript : source.transcript encoding = .ofLines lines)
      (h : lines = Text.splitLines text.toList) : compiled source = compiled (.text text) :=
    congrArg (compile setting) (htranscript.trans (congrArg Transcript.ofLines h))
  refine ⟨congrArg (compile setting) (transcript_bytes_encodeUtf8 hencoding text),
    congrArg (compile setting) (transcript_stream_encodeUtf8 hencoding text),
    fun hpaired => ⟨hlines rfl (Text.map_splitRecords hpaired), hlines rfl ?_⟩,
    fun hfeeds ending hending => hlines rfl ?_⟩
  · rw [String.toList_ofList, Text.splitLines_joinPairs hpaired]
  · rw [String.toList_ofList, Text.splitLines_replaceFeeds hfeeds hending]

/-- Characters beyond ASCII, a blank line, and a last line without an ending. -/
theorem compile_sources_agree_of_blank_line :
    let setting : Setting := ⟨"t.mpt", ⟨[], []⟩, none, 100⟩
    let paired := "C: h\u00e9\r\n\r\nS: OK"
    let bytes : List UInt8 := [67, 58, 32, 104, 195, 169, 13, 10, 13, 10, 83, 58, 32, 79, 75]
    let elements := [.request "h\u00e9", .response "OK" ⟨"t.mpt:3", some "h\u00e9"⟩ []]
    let compiled (source : Source) := (compile setting (source.transcript "utf-8")).result
    Text.Encoding.ofName? "utf-8" = some .utf8 ∧ Text.Paired paired.toList ∧
      compiled (.bytes bytes) = .ok elements ∧ compiled (.stream bytes) = .ok elements ∧
      compiled (.characters paired) = .ok elements ∧
      compiled (.text "C: h\u00e9\r\rS: OK") = .ok elements := by
  intro setting paired bytes elements compiled
  have hencoding : Text.Encoding.ofName? "utf-8" = some .utf8 := by decide +kernel
  have hpaired : Text.Paired paired.toList := by decide +kernel
  have hfeeds : '\r' ∉ "C: h\u00e9\n\nS: OK".toList := by decide +kernel
  have hbytes : Text.encodeUtf8 paired = bytes := by
    rw [Text.encodeUtf8_eq_flatMap]
    decide +kernel
  have htext : compiled (.text paired) = .ok elements := eq_ok_of_toOption (by decide +kernel)
  have hplain : compiled (.text "C: h\u00e9\n\nS: OK") = .ok elements :=
    eq_ok_of_toOption (by decide +kernel)
  obtain ⟨hofBytes, hofStream, hofPaired, -⟩ := compile_sources_agree hencoding setting paired
  obtain ⟨-, -, -, hofFeeds⟩ :=
    compile_sources_agree hencoding setting "C: h\u00e9\n\nS: OK"
  rw [hbytes] at hofBytes hofStream
  refine ⟨hencoding, hpaired, ?_, ?_, ?_, ?_⟩
  · exact (congrArg Compilation.result hofBytes).trans htext
  · exact (congrArg Compilation.result hofStream).trans htext
  · exact (congrArg Compilation.result (hofPaired hpaired).1).trans htext
  · exact (congrArg Compilation.result (hofFeeds hfeeds ['\r'] (.inl rfl))).trans hplain

end Script

end MailScript
