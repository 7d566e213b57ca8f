import MailScript.Network.Link

/-! # A stream of bytes in chunks

Data arrives in chunks of any size, with pauses between them. A line is put together from as many of
them as it takes. -/

namespace MailScript.Network

/-! ## Cutting at line feeds -/

theorem cutLine_of_not_mem {bytes : List UInt8} (h : lineFeed ∉ bytes) : cutLine bytes = none := by
  induction bytes with
  | nil => rfl
  | cons byte rest ih =>
      rw [List.mem_cons, not_or] at h
      rw [cutLine, if_neg (Ne.symm h.1), ih h.2]
      rfl

theorem cutLine_append {before : List UInt8} (behind : List UInt8) (h : lineFeed ∉ before) :
    cutLine (before ++ lineFeed :: behind) = some (before, behind) := by
  induction before with
  | nil => rfl
  | cons byte rest ih =>
      rw [List.mem_cons, not_or] at h
      rw [List.cons_append, cutLine, if_neg (Ne.symm h.1), ih h.2]
      rfl

theorem cutLine_eq_none_iff {bytes : List UInt8} : cutLine bytes = none ↔ lineFeed ∉ bytes := by
  constructor
  · intro h hmem
    obtain ⟨before, behind, rfl, hbefore⟩ := List.eq_append_cons_of_mem hmem
    rw [cutLine_append behind hbefore] at h
    cases h
  · exact cutLine_of_not_mem

theorem cutLine_eq_some_iff {bytes before behind : List UInt8} :
    cutLine bytes = some (before, behind) ↔
      bytes = before ++ lineFeed :: behind ∧ lineFeed ∉ before := by
  constructor
  · intro h
    by_cases hmem : lineFeed ∈ bytes
    · obtain ⟨before', behind', rfl, hbefore⟩ := List.eq_append_cons_of_mem hmem
      rw [cutLine_append behind' hbefore] at h
      cases h
      exact ⟨rfl, hbefore⟩
    · rw [cutLine_of_not_mem hmem] at h
      cases h
  · rintro ⟨rfl, hbefore⟩
    exact cutLine_append behind hbefore

theorem append_lineFeed_inj {before before' behind behind' : List UInt8}
    (h : before ++ lineFeed :: behind = before' ++ lineFeed :: behind') (hbefore : lineFeed ∉ before)
    (hbefore' : lineFeed ∉ before') : before = before' ∧ behind = behind' := by
  have hcut := cutLine_append behind hbefore
  rw [h, cutLine_append behind' hbefore'] at hcut
  cases hcut
  exact ⟨rfl, rfl⟩

/-- Without a line feed in the front, the first line feed comes behind it. -/
theorem exists_of_append_eq {front rest before behind : List UInt8}
    (h : front ++ rest = before ++ lineFeed :: behind) (hfront : lineFeed ∉ front) :
    ∃ before', before = front ++ before' ∧ rest = before' ++ lineFeed :: behind := by
  rcases List.append_eq_append_iff.mp h with ⟨before', hbefore, hrest⟩ | ⟨middle, hmiddle, hbehind⟩
  · exact ⟨before', hbefore, hrest⟩
  · cases middle with
    | nil =>
        refine ⟨[], ?_, hbehind.symm⟩
        rw [hmiddle, List.append_nil, List.append_nil]
    | cons byte middle =>
        cases hbehind
        simp [hmiddle] at hfront

/-- The segments of a stream that end with a line feed, without it. -/
def segments (stream : List UInt8) : List (List UInt8) :=
  (stream.splitOn lineFeed).dropLast

/-- Segments with a line feed behind each. -/
def ended (segments : List (List UInt8)) : List UInt8 :=
  segments.flatMap fun segment => segment ++ [lineFeed]

theorem ended_cons_append (segment : List UInt8) (rest : List (List UInt8)) (tail : List UInt8) :
    ended (segment :: rest) ++ tail = segment ++ lineFeed :: (ended rest ++ tail) := by
  simp [ended]

theorem ended_append (front back : List (List UInt8)) :
    ended (front ++ back) = ended front ++ ended back :=
  List.flatMap_append ..

theorem segments_of_not_mem {stream : List UInt8} (h : lineFeed ∉ stream) : segments stream = [] := by
  rw [segments, List.splitOn_eq_singleton h]
  rfl

theorem segments_append {before : List UInt8} (behind : List UInt8) (h : lineFeed ∉ before) :
    segments (before ++ lineFeed :: behind) = before :: segments behind := by
  rw [segments, List.splitOn_append_cons_self_of_not_mem h,
    List.dropLast_cons_of_ne_nil (List.splitOn_ne_nil _ _), segments]

/-- A stream is made of its segments and what is left behind the last line feed. -/
theorem exists_tail (stream : List UInt8) :
    ∃ tail, stream = ended (segments stream) ++ tail ∧ lineFeed ∉ tail ∧
      (∀ segment ∈ segments stream, lineFeed ∉ segment) ∧
      (segments stream).length = stream.count lineFeed := by
  induction hlength : stream.length using Nat.strongRecOn generalizing stream with
  | ind length ih =>
      by_cases hmem : lineFeed ∈ stream
      · obtain ⟨before, behind, rfl, hbefore⟩ := List.eq_append_cons_of_mem hmem
        have hshorter : behind.length < length := by
          simp at hlength
          omega
        obtain ⟨tail, heq, htail, hsegments, hcount⟩ := ih behind.length hshorter behind rfl
        rw [segments_append behind hbefore]
        refine ⟨tail, ?_, htail, ?_, ?_⟩
        · rw [ended_cons_append, ← heq]
        · rintro segment (_ | ⟨_, hsegment⟩)
          · exact hbefore
          · exact hsegments segment hsegment
        · simp [hcount, List.count_eq_zero.mpr hbefore]
      · rw [segments_of_not_mem hmem]
        exact ⟨stream, rfl, hmem, by simp, (List.count_eq_zero.mpr hmem).symm⟩

/-! ## Waiting for data -/

/-- The bytes that a receipt brings. -/
def Receipt.bytes : Receipt → List UInt8
  | .data bytes => bytes
  | _ => []

/-- All bytes that receipts bring. -/
def arriving (receipts : List Receipt) : List UInt8 :=
  receipts.flatMap Receipt.bytes

/-- A receipt brings data, or it asks to try again. -/
def Receipt.Steady : Receipt → Prop
  | .data bytes => bytes ≠ []
  | receipt => receipt.error? = none

instance : DecidablePred Receipt.Steady := fun receipt =>
  match receipt with
  | .data bytes => inferInstanceAs (Decidable (bytes ≠ []))
  | .retry => inferInstanceAs (Decidable (Receipt.retry.error? = none))
  | .failed error => inferInstanceAs (Decidable ((Receipt.failed error).error? = none))

/-- A wait that never lasts too long. -/
def Patience.Endless (patience : Patience) : Prop :=
  ∀ started now, patience.expired started now = false

theorem Patience.endless_ofLimit (pause : Int) : (Patience.ofLimit none pause).Endless :=
  fun _ _ => rfl

theorem Config.endless_ofSettings {settings : Settings} (h : settings.readTimeout = none)
    (endpoint : Endpoint) (quiet : Option Bool) (shebang : Option String)
    (connectTimeout : Option Decimal) (bufferSize : Option Int) :
    (Config.ofSettings settings endpoint quiet shebang none connectTimeout
      bufferSize).readPatience.Endless := by
  unfold Config.ofSettings
  rw [h]
  exact Patience.endless_ofLimit _

/-- What is left of data of which some was taken comes in front of the rest. -/
theorem arriving_left (size : Nat) (bytes : List UInt8) (rest : List Receipt) :
    bytes ++ arriving rest = bytes.take size ++
      arriving (if size < bytes.length then .data (bytes.drop size) :: rest else rest) := by
  split
  · rw [arriving, arriving, List.flatMap_cons, Receipt.bytes, ← List.append_assoc,
      List.take_append_drop]
  · rename_i hsize
    rw [List.take_of_length_le (by omega)]

/-- An attempt takes as much data as fits, and leaves the rest in front of the schedule. -/
theorem awaitData_data {size : Nat} (patience : Patience) (started : Int) {bytes : List UInt8}
    (h : bytes.take size ≠ []) (rest : List Receipt) (clock : Clock) :
    awaitData size patience started (.data bytes :: rest) clock =
      ⟨.data (bytes.take size),
        if size < bytes.length then .data (bytes.drop size) :: rest else rest, 1, clock⟩ := by
  cases htake : bytes.take size with
  | nil => exact absurd htake h
  | cons first others => simp [awaitData, htake]

/-- An attempt that brings nothing is made again. -/
theorem awaitData_again {size : Nat} {patience : Patience} (hpatience : patience.Endless)
    (started : Int) {receipt : Receipt} (hbytes : receipt.bytes = [])
    (hsteady : receipt.Steady) (rest : List Receipt) {clock : Clock}
    (htakes : clock.refusal? patience.pause = none) :
    awaitData size patience started (receipt :: rest) clock =
      let later := awaitData size patience started rest (clock.wait patience.pause)
      { later with attempts := later.attempts + 1 } := by
  have hexpired := hpatience started clock.now
  cases receipt with
  | data bytes => exact absurd hbytes hsteady
  | retry => simp [awaitData, Receipt.error?, hexpired, htakes]
  | failed error =>
      have herror : (Receipt.failed error).error? = none := hsteady
      simp [awaitData, herror, hexpired, htakes]

/-- A wait brings the next data, or there is none left. -/
theorem awaitData_steady {size : Nat} {patience : Patience} (hsize : 0 < size)
    (hpatience : patience.Endless) (started : Int) {receipts : List Receipt}
    (hsteady : ∀ receipt ∈ receipts, receipt.Steady) {clock : Clock}
    (htakes : clock.Takes patience.pause) :
    (∃ bytes, (awaitData size patience started receipts clock).arrival = .data bytes ∧
      arriving receipts =
        bytes ++ arriving (awaitData size patience started receipts clock).receipts ∧
      ∀ receipt ∈ (awaitData size patience started receipts clock).receipts, receipt.Steady) ∨
    ((awaitData size patience started receipts clock).arrival = .closed ∧
      arriving receipts = []) := by
  induction receipts generalizing clock with
  | nil => exact .inr ⟨rfl, rfl⟩
  | cons receipt rest ih =>
      rw [List.forall_mem_cons] at hsteady
      obtain ⟨hreceipt, hrest⟩ := hsteady
      by_cases hbytes : receipt.bytes = []
      · rw [awaitData_again hpatience started hbytes hreceipt rest htakes]
        have harriving : arriving (receipt :: rest) = arriving rest := by
          rw [arriving, List.flatMap_cons, hbytes, List.nil_append, arriving]
        rw [harriving]
        exact ih hrest (htakes.congr rfl)
      · cases receipt with
        | data bytes =>
            have htake : bytes.take size ≠ [] := by
              simp only [ne_eq, List.take_eq_nil_iff, not_or]
              exact ⟨by omega, hbytes⟩
            rw [awaitData_data patience started htake]
            refine .inl ⟨_, rfl, arriving_left size bytes rest, ?_⟩
            dsimp only
            split
            · refine List.forall_mem_cons.mpr ⟨?_, hrest⟩
              simp only [Receipt.Steady, ne_eq, List.drop_eq_nil_iff]
              omega
            · exact hrest
        | retry => exact absurd rfl hbytes
        | failed error => exact absurd rfl hbytes

/-- Waits leave what a clock refuses as it is. -/
theorem limited_awaitData (size : Nat) (patience : Patience) (started : Int)
    (receipts : List Receipt) (clock : Clock) :
    (awaitData size patience started receipts clock).clock.limited = clock.limited := by
  fun_induction awaitData size patience started receipts clock with
  | case7 receipt rest clock _ _ _ _ later ih => exact ih
  | _ => rfl

theorem limited_receive (size : Int) (patience : Patience) (started : Int)
    (receipts : List Receipt) (clock : Clock) :
    (receive size patience started receipts clock).clock.limited = clock.limited := by
  unfold receive
  split
  · rfl
  · exact limited_awaitData ..

section Receiving

variable {size : Int} {patience : Patience} {started : Int} {receipts : List Receipt}
  {clock : Clock} (hsize : 0 < size) (hpatience : patience.Endless)
  (htakes : clock.Takes patience.pause) (hsteady : ∀ receipt ∈ receipts, receipt.Steady)

include hsize hpatience htakes hsteady

theorem receive_steady :
    (∃ bytes, (receive size patience started receipts clock).arrival = .data bytes ∧
      arriving receipts =
        bytes ++ arriving (receive size patience started receipts clock).receipts ∧
      ∀ receipt ∈ (receive size patience started receipts clock).receipts, receipt.Steady) ∨
    ((receive size patience started receipts clock).arrival = .closed ∧ arriving receipts = []) := by
  rw [receive, if_neg (by omega)]
  exact awaitData_steady (by omega) hpatience started hsteady htakes

theorem arriving_of_data {bytes : List UInt8}
    (h : (receive size patience started receipts clock).arrival = .data bytes) :
    arriving receipts =
        bytes ++ arriving (receive size patience started receipts clock).receipts ∧
      ∀ receipt ∈ (receive size patience started receipts clock).receipts, receipt.Steady := by
  rcases receive_steady hsize hpatience htakes hsteady with
    ⟨bytes', hbytes, hsplit, hrest⟩ | ⟨hclosed, -⟩
  · rw [hbytes] at h
    cases h
    exact ⟨hsplit, hrest⟩
  · rw [hclosed] at h
    cases h

theorem closed_of_not_data
    (h : ∀ bytes, (receive size patience started receipts clock).arrival ≠ .data bytes) :
    (receive size patience started receipts clock).arrival = .closed ∧ arriving receipts = [] := by
  rcases receive_steady hsize hpatience htakes hsteady with ⟨bytes, hbytes, -⟩ | hclosed
  · exact absurd hbytes (h bytes)
  · exact hclosed

end Receiving

/-! ## One line -/

/-- However a line is put together, what the clock refuses is left as it is. -/
theorem limited_assembleLine (config : Config) (isOpen : Bool) (started : Int) (inbox : Inbox)
    (line : List UInt8) :
    (assembleLine config isOpen started inbox line).2.clock.limited = inbox.clock.limited := by
  fun_induction assembleLine config isOpen started inbox line with
  | case1 => rfl
  | case2 inbox line hcut line' emptied hopen asking run bytes hdata ih =>
      exact ih.trans (limited_receive ..)
  | case3 => exact limited_receive ..
  | case4 => rfl

theorem dropReturns_append (front back : List UInt8) :
    dropReturns (front ++ back) = dropReturns front ++ dropReturns back :=
  List.filter_append ..

/-- A line is what stands in front of the next line feed, in however many chunks it arrives. -/
theorem assembleLine_line {config : Config} (hsize : 0 < config.bufferSize)
    (hpatience : config.readPatience.Endless) (started : Int) (inbox : Inbox) (line : List UInt8)
    (htakes : inbox.clock.Takes config.readPatience.pause) {before behind : List UInt8}
    (hsteady : ∀ receipt ∈ inbox.receipts, receipt.Steady)
    (hstream : inbox.unread ++ arriving inbox.receipts = before ++ lineFeed :: behind)
    (hbefore : lineFeed ∉ before) :
    ∃ after obtained, assembleLine config true started inbox line =
        (.ok (line ++ dropReturns before), after) ∧
      (∀ receipt ∈ after.receipts, receipt.Steady) ∧
      arriving inbox.receipts = obtained ++ arriving after.receipts ∧
      inbox.unread ++ obtained = before ++ lineFeed :: after.unread ∧
      after.received = inbox.received + obtained.length := by
  fun_induction assembleLine config true started inbox line generalizing before with
  | case1 inbox line cut rest hcut =>
      obtain ⟨hunread, hnot⟩ := cutLine_eq_some_iff.mp hcut
      have hfirst : cut ++ lineFeed :: (rest ++ arriving inbox.receipts) =
          before ++ lineFeed :: behind := by
        rw [← hstream, hunread, List.append_assoc, List.cons_append]
      obtain ⟨rfl, -⟩ := append_lineFeed_inj hfirst hnot hbefore
      refine ⟨_, [], rfl, hsteady, rfl, ?_, rfl⟩
      rw [List.append_nil]
      exact hunread
  | case2 inbox line hcut line' emptied _ asking run bytes hdata =>
      rename_i ih
      obtain ⟨before', rfl, harriving⟩ :=
        exists_of_append_eq hstream (cutLine_eq_none_iff.mp hcut)
      obtain ⟨hsplit, hrest⟩ := arriving_of_data hsize hpatience htakes hsteady hdata
      have hbefore' : lineFeed ∉ before' := fun hmem => hbefore (List.mem_append_right _ hmem)
      obtain ⟨after, obtained, hassemble, hsteady', hreceipts, hunread, hreceived⟩ :=
        ih (htakes.congr (limited_receive ..)) hrest (hsplit.symm.trans harriving) hbefore'
      refine ⟨after, bytes ++ obtained, ?_, hsteady', ?_, ?_, ?_⟩
      · rw [hassemble, dropReturns_append, ← List.append_assoc]
      · rw [hsplit, List.append_assoc]
        exact congrArg (bytes ++ ·) hreceipts
      · rw [List.append_assoc]
        exact congrArg (inbox.unread ++ ·) hunread
      · rw [hreceived, List.length_append, ← Nat.add_assoc]
        rfl
  | case3 inbox line hcut emptied _ asking run =>
      rename_i hdata
      obtain ⟨before', rfl, harriving⟩ :=
        exists_of_append_eq hstream (cutLine_eq_none_iff.mp hcut)
      rw [(closed_of_not_data hsize hpatience htakes hsteady hdata).2] at harriving
      simp at harriving
  | case4 inbox line hcut emptied =>
      rename_i hclosed
      exact absurd rfl hclosed

/-- Without another line feed a read ends where the stream does. -/
theorem assembleLine_end {config : Config} (hsize : 0 < config.bufferSize)
    (hpatience : config.readPatience.Endless) (started : Int) (inbox : Inbox) (line : List UInt8)
    (htakes : inbox.clock.Takes config.readPatience.pause)
    (hsteady : ∀ receipt ∈ inbox.receipts, receipt.Steady)
    (hstream : lineFeed ∉ inbox.unread ++ arriving inbox.receipts) :
    (assembleLine config true started inbox line).1 =
      .error (.failure (.peerClosed config.endpoint)) := by
  fun_induction assembleLine config true started inbox line with
  | case1 inbox line cut rest hcut =>
      obtain ⟨hunread, -⟩ := cutLine_eq_some_iff.mp hcut
      simp [hunread] at hstream
  | case2 inbox line hcut line' emptied _ asking run bytes hdata =>
      rename_i ih
      obtain ⟨hsplit, hrest⟩ := arriving_of_data hsize hpatience htakes hsteady hdata
      refine ih (htakes.congr (limited_receive ..)) hrest fun hmem =>
        hstream (List.mem_append_right _ ?_)
      rw [hsplit]
      exact hmem
  | case3 inbox line hcut emptied _ asking run =>
      rename_i hdata
      have hclosed : run.arrival = .closed :=
        (closed_of_not_data hsize hpatience htakes hsteady hdata).1
      rw [hclosed]
      rfl
  | case4 inbox line hcut emptied =>
      rename_i hclosed
      exact absurd rfl hclosed

end MailScript.Network
