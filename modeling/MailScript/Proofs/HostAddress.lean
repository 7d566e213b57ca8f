import MailScript.CommandLine.Specification
import MailScript.Proofs.Text
import Mathlib.Data.List.Forall2
import Mathlib.Data.List.TakeWhile

/-! # Specifications of hosts

A text specifies a host in one of three forms: with a label, with a blank one, or with none. Reading
it gives the host that it specifies, and a text of another form is an error. -/

namespace MailScript

namespace HostAddress

/-! ## The forms of a specification -/

/-- Digits that denote a port. -/
structure IsPort (digits : List Char) (port : Nat) : Prop where
  denotes : Text.decimalNumber? digits = some port
  short : digits.length ≤ Text.digitLimit
  positive : 0 < port
  bounded : port < 65536

/-- A text specifies a host: the label stands in front of the first equals sign and the port behind
the last colon, and the host name serves as label if there is no other. -/
inductive Specifies : String → HostAddress → Prop where
  | labelled {label host digits : List Char} {port : Nat} (hlabel : '=' ∉ label)
      (hname : Text.trimChars label ≠ []) (hhost : host ≠ []) (hport : IsPort digits port) :
      Specifies (String.ofList (label ++ '=' :: (host ++ ':' :: digits)))
        ⟨String.ofList (Text.trimChars label), String.ofList host, port⟩
  | blank {label host digits : List Char} {port : Nat} (hlabel : '=' ∉ label)
      (hname : Text.trimChars label = []) (hhost : host ≠ []) (hport : IsPort digits port) :
      Specifies (String.ofList (label ++ '=' :: (host ++ ':' :: digits)))
        ⟨String.ofList host, String.ofList host, port⟩
  | bare {host digits : List Char} {port : Nat} (hlabel : '=' ∉ host) (hhost : host ≠ [])
      (hport : IsPort digits port) :
      Specifies (String.ofList (host ++ ':' :: digits))
        ⟨String.ofList host, String.ofList host, port⟩

/-- A host address with all of its parts, and a port that exists. -/
structure Valid (address : HostAddress) : Prop where
  label : address.label ≠ ""
  host : address.host ≠ ""
  positive : 0 < address.port
  bounded : address.port < 65536

theorem Specifies.valid {spec : String} {address : HostAddress} (h : Specifies spec address) :
    address.Valid := by
  cases h with
  | labelled _ hname hhost hport => exact ⟨by simpa, by simpa, hport.positive, hport.bounded⟩
  | blank _ _ hhost hport => exact ⟨by simpa, by simpa, hport.positive, hport.bounded⟩
  | bare _ hhost hport => exact ⟨by simpa, by simpa, hport.positive, hport.bounded⟩

/-! ## Ports -/

theorem isPort_toString {port : Nat} (hpositive : 0 < port) (hbounded : port < 65536) :
    IsPort (toString port).toList port where
  denotes := Text.decimalNumber?_toString port
  short := by
    have hfive : port < Nat.pow 10 5 := hbounded.trans (by decide)
    exact (Text.length_toString_le (by decide) hfive).trans (by decide)
  positive := hpositive
  bounded := hbounded

theorem IsPort.isDecimal {digits : List Char} {port : Nat} (h : IsPort digits port) :
    ∀ c ∈ digits, Text.isDecimal c.toNat :=
  Text.isDecimal_of_decimalNumber? h.denotes

theorem IsPort.not_mem {digits : List Char} {port : Nat} (h : IsPort digits port) {c : Char}
    (hc : Text.isDecimal c.toNat = false) : c ∉ digits :=
  fun hmem => by simp [h.isDecimal c hmem] at hc

theorem portNumber_eq_ok_iff {digits : List Char} {port : Nat} :
    portNumber digits = .ok port ↔
      Text.decimalNumber? digits = some port ∧ digits.length ≤ Text.digitLimit := by
  have hall (h : Text.decimalNumber? digits = some port) :
      digits.takeWhile (fun c => Text.isDecimal c.toNat) = digits :=
    List.takeWhile_eq_self_iff.mpr (Text.isDecimal_of_decimalNumber? h)
  unfold portNumber
  dsimp only
  split
  · rename_i hlimit
    constructor
    · nofun
    · rintro ⟨hnumber, hshort⟩
      rw [hall hnumber] at hlimit
      omega
  · rename_i hlimit
    cases hnumber : Text.decimalNumber? digits with
    | none => simp
    | some number =>
        simp only [Except.ok.injEq, Option.some.injEq, iff_self_and]
        rintro rfl
        rw [hall hnumber] at hlimit
        omega

theorem fieldErrors_eq_nil_iff {label : String} {port : Nat} :
    fieldErrors (some label) (some (port : Int)) = [] ↔ label ≠ "" ∧ 0 < port ∧ port < 65536 := by
  have hlarge : (65536 : Int) ≤ port ↔ 65536 ≤ port := by omega
  by_cases hlabel : label = ""
  · simp [fieldErrors, hlabel]
  · by_cases hpositive : port = 0
    · simp [fieldErrors, hpositive]
    · by_cases hbounded : 65536 ≤ port
      · simp [fieldErrors, hpositive, hlarge, hbounded]
      · simp [fieldErrors, hlabel, hpositive, hlarge, hbounded]
        omega

theorem ofParts_eq_ok_iff {label host : String} {port : Nat} {address : HostAddress} :
    ofParts (some label) (some host) (some (port : Int)) = .ok address ↔
      (label ≠ "" ∧ 0 < port ∧ port < 65536) ∧ ⟨label, host, port⟩ = address := by
  rw [← fieldErrors_eq_nil_iff]
  unfold ofParts
  cases fieldErrors (some label) (some (port : Int)) with
  | nil => simp
  | cons e errors => simp

/-! ## Reading -/

/-- The label of a host: the text in front of the equals sign, or else the name of the host. -/
def nameFor (label host : List Char) : List Char :=
  if (Text.trimChars label).isEmpty then host else Text.trimChars label

/-- Read what is behind a label. -/
def readAddress (label address : List Char) : Except HostError HostAddress :=
  match Text.cutAtLast ':' address with
  | none => .error .malformed
  | some (host, port) =>
    if host.isEmpty || port.isEmpty || !port.all fun c => Text.isDigit c.toNat then
      .error .malformed
    else
      match portNumber port with
      | .error e => .error e
      | .ok number =>
        match ofParts (some (String.ofList (nameFor label host))) (some (String.ofList host))
          (some number) with
        | .ok address => .ok address
        | .error fields => .error (.invalid fields)

theorem nameFor_eq_host {label : List Char} (h : Text.trimChars label = []) (host : List Char) :
    nameFor label host = host := by
  rw [nameFor, h]
  rfl

theorem nameFor_eq_label {label : List Char} (h : Text.trimChars label ≠ []) (host : List Char) :
    nameFor label host = Text.trimChars label := by
  rw [nameFor, if_neg (by simpa using h)]

theorem nameFor_ne_nil (label : List Char) {host : List Char} (h : host ≠ []) :
    nameFor label host ≠ [] := by
  by_cases hlabel : Text.trimChars label = []
  · rwa [nameFor_eq_host hlabel]
  · rwa [nameFor_eq_label hlabel]

theorem parse_eq (spec : String) :
    parse spec =
      match Text.cutAtFirst '=' spec.toList with
      | some (label, address) => readAddress label address
      | none => readAddress [] spec.toList := by
  unfold parse
  cases Text.cutAtFirst '=' spec.toList with
  | none => rfl
  | some parts => rfl

theorem parse_labelled {label : List Char} (h : '=' ∉ label) (text : List Char) :
    parse (String.ofList (label ++ '=' :: text)) = readAddress label text := by
  rw [parse_eq, String.toList_ofList, Text.cutAtFirst_append text h]

theorem parse_bare {text : List Char} (h : '=' ∉ text) :
    parse (String.ofList text) = readAddress [] text := by
  rw [parse_eq, String.toList_ofList, Text.cutAtFirst_eq_none_iff.mpr h]

/-- A text is read either with a label or without one. -/
theorem exists_parse_eq (spec : String) :
    (∃ label text, '=' ∉ label ∧ spec = String.ofList (label ++ '=' :: text)) ∨
      ∃ text, '=' ∉ text ∧ spec = String.ofList text := by
  cases hcut : Text.cutAtFirst '=' spec.toList with
  | some parts =>
      obtain ⟨htext, hlabel⟩ := Text.cutAtFirst_eq_some hcut
      exact .inl ⟨parts.1, parts.2, hlabel, by rw [← htext, String.ofList_toList]⟩
  | none =>
      exact .inr ⟨_, Text.cutAtFirst_eq_none_iff.mp hcut, String.ofList_toList.symm⟩

theorem readAddress_eq_ok_iff {label text : List Char} {address : HostAddress} :
    readAddress label text = .ok address ↔
      ∃ host digits port, text = host ++ ':' :: digits ∧ host ≠ [] ∧ IsPort digits port ∧
        ⟨String.ofList (nameFor label host), String.ofList host, port⟩ = address := by
  constructor
  · intro h
    unfold readAddress at h
    split at h
    · cases h
    · rename_i host digits hcut
      obtain ⟨rfl, -⟩ := Text.cutAtLast_eq_some hcut
      split at h
      · cases h
      · rename_i hparts
        cases hport : portNumber digits with
        | error e => simp [hport] at h
        | ok port =>
            simp only [hport] at h
            split at h
            · rename_i parts hfields
              cases h
              obtain ⟨hdenotes, hshort⟩ := portNumber_eq_ok_iff.mp hport
              obtain ⟨⟨-, hpositive, hbounded⟩, rfl⟩ := ofParts_eq_ok_iff.mp hfields
              have hhost : host ≠ [] := by
                rintro rfl
                exact hparts rfl
              exact ⟨host, digits, port, rfl, hhost, ⟨hdenotes, hshort, hpositive, hbounded⟩, rfl⟩
            · cases h
  · rintro ⟨host, digits, port, rfl, hhost, hport, rfl⟩
    have hdigits : digits ≠ [] := by
      rintro rfl
      cases hport.denotes
      exact absurd hport.positive (Nat.lt_irrefl 0)
    have hall : digits.all fun c => Text.isDigit c.toNat :=
      List.all_eq_true.mpr fun c hc => by simp [Text.isDigit, hport.isDecimal c hc]
    have hcut := Text.cutAtLast_append host (hport.not_mem (c := ':') (by decide))
    have hnumber := portNumber_eq_ok_iff.mpr ⟨hport.denotes, hport.short⟩
    have hname : String.ofList (nameFor label host) ≠ "" := by
      simpa using nameFor_ne_nil label hhost
    have hparts : ofParts (some (String.ofList (nameFor label host))) (some (String.ofList host))
        (some (port : Int)) = .ok ⟨String.ofList (nameFor label host), String.ofList host, port⟩ :=
      ofParts_eq_ok_iff.mpr ⟨⟨hname, hport.positive, hport.bounded⟩, rfl⟩
    simp [readAddress, hcut, hhost, hdigits, hall, hnumber, hparts]

/-- Reading a text gives the host that it specifies, and an error if it specifies none. -/
theorem parse_eq_ok_iff {spec : String} {address : HostAddress} :
    parse spec = .ok address ↔ Specifies spec address := by
  constructor
  · intro h
    obtain ⟨label, text, hlabel, rfl⟩ | ⟨text, htext, rfl⟩ := exists_parse_eq spec
    · rw [parse_labelled hlabel] at h
      obtain ⟨host, digits, port, rfl, hhost, hport, rfl⟩ := readAddress_eq_ok_iff.mp h
      by_cases hname : Text.trimChars label = []
      · rw [nameFor_eq_host hname]
        exact .blank hlabel hname hhost hport
      · rw [nameFor_eq_label hname]
        exact .labelled hlabel hname hhost hport
    · rw [parse_bare htext] at h
      obtain ⟨host, digits, port, rfl, hhost, hport, rfl⟩ := readAddress_eq_ok_iff.mp h
      have hhostname : '=' ∉ host := fun hmem => htext (List.mem_append_left _ hmem)
      exact .bare hhostname hhost hport
  · intro h
    cases h with
    | labelled hlabel hname hhost hport =>
        rw [parse_labelled hlabel, readAddress_eq_ok_iff]
        exact ⟨_, _, _, rfl, hhost, hport, by rw [nameFor_eq_label hname]⟩
    | blank hlabel hname hhost hport =>
        rw [parse_labelled hlabel, readAddress_eq_ok_iff]
        exact ⟨_, _, _, rfl, hhost, hport, by rw [nameFor_eq_host hname]⟩
    | bare hlabel hhost hport =>
        have hport' : '=' ∉ _ := hport.not_mem (c := '=') (by decide)
        rw [parse_bare (by simp [hlabel, hport']), readAddress_eq_ok_iff]
        exact ⟨_, _, _, rfl, hhost, hport, rfl⟩

/-! ## Round trips -/

/-- A host is read back from its label, its name and its port. -/
theorem parse_render {address : HostAddress} (hvalid : address.Valid)
    (hlabel : Text.trimChars address.label.toList = address.label.toList)
    (hmark : '=' ∉ address.label.toList) : parse address.render = .ok address := by
  have hname : Text.trimChars address.label.toList ≠ [] := by
    rw [hlabel]
    exact fun h => hvalid.label (String.toList_eq_nil_iff.mp h)
  have hhost : address.host.toList ≠ [] := fun h => hvalid.host (String.toList_eq_nil_iff.mp h)
  have hspec := Specifies.labelled hmark hname hhost
    (isPort_toString hvalid.positive hvalid.bounded)
  have htext : String.ofList (address.label.toList ++ '=' ::
      (address.host.toList ++ ':' :: (toString address.port).toList)) = address.render := by
    rw [← String.toList_inj]
    simp [render]
  rw [htext, hlabel, String.ofList_toList, String.ofList_toList] at hspec
  exact parse_eq_ok_iff.mpr hspec

/-- A host without a label is read back from its name and its port. -/
theorem parse_unlabelled {host : String} {port : Nat} (hhost : host ≠ "")
    (hmark : '=' ∉ host.toList) (hpositive : 0 < port) (hbounded : port < 65536) :
    parse (host ++ ":" ++ toString port) = .ok ⟨host, host, port⟩ := by
  have hspec := Specifies.bare hmark (fun h => hhost (String.toList_eq_nil_iff.mp h))
    (isPort_toString hpositive hbounded)
  have htext : String.ofList (host.toList ++ ':' :: (toString port).toList) =
      host ++ ":" ++ toString port := by
    rw [← String.toList_inj]
    simp
  rw [htext, String.ofList_toList] at hspec
  exact parse_eq_ok_iff.mpr hspec

end HostAddress

namespace CommandLine

open HostAddress (Specifies)

/-! ## Lists of specifications -/

/-- What reading a list of texts gives: the hosts that they specify, or a failure that names the
first text that specifies none. -/
inductive HostsRead (specs : List String) : Except Fault (List HostAddress) → Prop where
  | hosts {hosts : List HostAddress} (hspecs : List.Forall₂ Specifies specs hosts)
      (hvalid : ∀ host ∈ hosts, host.Valid) : HostsRead specs (.ok hosts)
  | failure {front back : List String} {spec : String} {failure : Failure}
      (hspecs : specs = front ++ spec :: back)
      (hfront : ∀ other ∈ front, ∃ address, Specifies other address)
      (hspec : ∀ address, ¬ Specifies spec address) (hkind : failure.kind = .configuration)
      (hdetails : failure.details = [("host", .text spec)]) : HostsRead specs (fail failure)

theorem HostsRead.cons {spec : String} {address : HostAddress} {specs : List String}
    {result : Except Fault (List HostAddress)} (haddress : Specifies spec address)
    (h : HostsRead specs result) : HostsRead (spec :: specs) (result.map (address :: ·)) := by
  cases h with
  | hosts hspecs hvalid =>
      exact .hosts (.cons haddress hspecs) (List.forall_mem_cons.mpr ⟨haddress.valid, hvalid⟩)
  | @failure front back other failure hspecs hfront hspec hkind hdetails =>
      have hwhole : spec :: specs = (spec :: front) ++ other :: back := by rw [hspecs]; rfl
      exact .failure hwhole (List.forall_mem_cons.mpr ⟨⟨address, haddress⟩, hfront⟩) hspec hkind
        hdetails

theorem parseHosts_read (specs : List String) : HostsRead specs (parseHosts specs) := by
  induction specs with
  | nil => exact .hosts .nil (List.forall_mem_nil _)
  | cons spec rest ih =>
      cases hparse : HostAddress.parse spec with
      | ok address =>
          have hcons : parseHosts (spec :: rest) = (parseHosts rest).map (address :: ·) := by
            rw [parseHosts, hparse]
            cases parseHosts rest <;> rfl
          rw [hcons]
          exact ih.cons (HostAddress.parse_eq_ok_iff.mp hparse)
      | error e =>
          have hfail : parseHosts (spec :: rest) = fail (.configuration (.badHost spec e)) := by
            rw [parseHosts, hparse]
          have hspec (address : HostAddress) : ¬ Specifies spec address := by
            rw [← HostAddress.parse_eq_ok_iff, hparse]
            nofun
          have hwhole : spec :: rest = [] ++ spec :: rest := rfl
          rw [hfail]
          exact .failure hwhole (List.forall_mem_nil _) hspec rfl rfl

/-- A host is read back from the text that it is written as, with a label or without one, and texts
in a list give the hosts that they specify or a failure that names the first that specifies none. -/
theorem hosts_read_back :
    (∀ address : HostAddress, address.Valid →
        Text.trimChars address.label.toList = address.label.toList →
        '=' ∉ address.label.toList → HostAddress.parse address.render = .ok address) ∧
      (∀ (host : String) (port : Nat), host ≠ "" → '=' ∉ host.toList → 0 < port → port < 65536 →
        HostAddress.parse (host ++ ":" ++ toString port) = .ok ⟨host, host, port⟩) ∧
      ∀ specs, HostsRead specs (parseHosts specs) :=
  ⟨fun _ => HostAddress.parse_render, fun _ _ => HostAddress.parse_unlabelled, parseHosts_read⟩

/-- The host name holds both marks, and the superscript digit denotes no port. -/
theorem hosts_read_back_of_marks :
    HostAddress.parse "a=x:y=z:143" = .ok ⟨"a", "x:y=z", 143⟩ ∧
      HostAddress.parse "[::1]:25" = .ok ⟨"[::1]", "[::1]", 25⟩ ∧
      HostsRead ["a=b:1", "b:²", "c"] (parseHosts ["a=b:1", "b:²", "c"]) :=
  ⟨hosts_read_back.1 ⟨"a", "x:y=z", 143⟩ ⟨by decide, by decide, by decide, by decide⟩ (by decide)
      (by decide),
    hosts_read_back.2.1 "[::1]" 25 (by decide) (by decide) (by decide) (by decide),
    hosts_read_back.2.2 _⟩

/-- The second text is the first that specifies no host. -/
example : parseHosts ["a=b:1", "b:²", "c"] =
    fail (.configuration (.badHost "b:²" (.notDecimal "²"))) := rfl

end CommandLine

end MailScript
