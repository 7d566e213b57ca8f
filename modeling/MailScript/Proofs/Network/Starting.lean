import MailScript.Network.World

/-! # Links right behind their start

A link that was started is connected to a socket of its own, and nothing is left of what an earlier
connection brought. -/

namespace MailScript.Network

/-- A link right behind its start: it is connected, and nothing has been read from it. -/
structure Station.Started (station : Station) : Prop where
  isOpen : station.socket.isSome
  unread : station.link.unread = []
  atFirstLine : station.link.atFirstLine = true
  actualFirstLine : station.link.actualFirstLine = none

namespace World

/-! ## Links by their labels -/

/-- A label stands for the first link that has it. -/
theorem findLink_eq_some_iff {world : World} {label : String} {place : Nat} {link : Link} :
    world.findLink label = some (place, link) ↔
      world.links[place]? = some link ∧ link.config.label = label ∧
        ∀ earlier < place, ∀ other, world.links[earlier]? = some other →
          other.config.label ≠ label := by
  have hfind : world.findLink label = some (place, link) ↔
      (world.links.zipIdx.find? fun entry => entry.1.config.label == label) =
        some (link, place) := by
    unfold findLink
    rw [Option.map_eq_some_iff]
    constructor
    · rintro ⟨⟨link', place'⟩, hfind, heq⟩
      cases heq
      exact hfind
    · exact fun h => ⟨_, h, rfl⟩
  rw [hfind, List.find?_eq_some_iff_getElem]
  constructor
  · rintro ⟨hlabel, index, hindex, hentry, hearlier⟩
    have hlt : index < world.links.length := by simpa using hindex
    rw [List.getElem_zipIdx, Nat.zero_add] at hentry
    cases hentry
    refine ⟨List.getElem?_eq_getElem hlt, by simpa using hlabel, fun earlier hbefore other hother => ?_⟩
    have hnot := hearlier earlier hbefore
    rw [List.getElem_zipIdx] at hnot
    rw [List.getElem?_eq_getElem (by omega)] at hother
    cases hother
    simpa using hnot
  · rintro ⟨hplace, hlabel, hearlier⟩
    obtain ⟨hlt, rfl⟩ := List.getElem?_eq_some_iff.mp hplace
    refine ⟨by simpa using hlabel, place, by simpa using hlt, ?_, fun earlier hbefore => ?_⟩
    · rw [List.getElem_zipIdx, Nat.zero_add]
    · rw [List.getElem_zipIdx]
      simpa using hearlier earlier hbefore _ (List.getElem?_eq_getElem (by omega))

/-- A link that is replaced under its label is found in its place. -/
theorem findLink_setLink {world : World} {label : String} {place : Nat} {link : Link}
    (h : world.findLink label = some (place, link)) {link' : Link}
    (hlabel : link'.config.label = label) :
    (world.setLink place link').findLink label = some (place, link') := by
  rw [findLink_eq_some_iff] at h ⊢
  obtain ⟨hplace, -, hearlier⟩ := h
  have hlt : place < world.links.length := (List.getElem?_eq_some_iff.mp hplace).1
  refine ⟨List.getElem?_set_self hlt, hlabel, fun earlier hlt other hother => ?_⟩
  rw [setLink, List.getElem?_set_ne (by omega)] at hother
  exact hearlier earlier hlt other hother

/-- A link that is replaced under its label does not get in the way of another label. -/
theorem findLink_set_of_ne {world after : World} {label label' : String} {place place' : Nat}
    {link link' other : Link} (hfind : world.findLink label = some (place, link))
    (hconfig : link'.config = link.config) (hlinks : after.links = world.links.set place link')
    (hne : label ≠ label') (hother : world.findLink label' = some (place', other)) :
    place ≠ place' ∧ after.findLink label' = some (place', other) := by
  obtain ⟨hplace, hlabel, -⟩ := findLink_eq_some_iff.mp hfind
  obtain ⟨hplace', hlabel', hearlier⟩ := findLink_eq_some_iff.mp hother
  have hplaces : place ≠ place' := by
    rintro rfl
    cases hplace.symm.trans hplace'
    exact hne (hlabel.symm.trans hlabel')
  refine ⟨hplaces, findLink_eq_some_iff.mpr ⟨?_, hlabel', fun earlier hlt before hbefore => ?_⟩⟩
  · rw [hlinks, List.getElem?_set_ne hplaces, hplace']
  · rw [hlinks] at hbefore
    by_cases heq : place = earlier
    · subst heq
      rw [List.getElem?_set_self (List.getElem?_eq_some_iff.mp hplace).1] at hbefore
      cases hbefore
      rw [hconfig, hlabel]
      exact hne
    · rw [List.getElem?_set_ne heq] at hbefore
      exact hearlier earlier hlt before hbefore

theorem findLink_congr {world world' : World} (h : world'.links = world.links) (label : String) :
    world'.findLink label = world.findLink label := by
  unfold findLink
  rw [h]

/-! ## Starting -/

/-- What an attempt to open a connection comes to depends on services and outages only. -/
theorem openConnection_congr {world world' : World} (hservices : world'.services = world.services)
    (houtages : world'.outages = world.outages) (host : String) (port : Int) :
    (world.openConnection host port).1 = (world'.openConnection host port).1 := by
  unfold openConnection
  rw [hservices, houtages]
  dsimp only
  split
  · rfl
  · split <;> rfl

/-- An attempt to open a connection leaves links and sockets alone. -/
theorem eq_of_openConnection {host : String} {port : Int} {world after : World}
    {outcome : Except OpenError Behaviour}
    (h : world.openConnection host port = (outcome, after)) :
    ∃ services outages, after = { world with services := services, outages := outages } := by
  unfold openConnection at h
  dsimp only at h
  split at h
  · cases h
    exact ⟨_, _, rfl⟩
  · split at h
    · cases h
      exact ⟨_, _, rfl⟩
    · cases h
      exact ⟨_, _, rfl⟩

/-- Connecting that succeeds opens one socket for the link. -/
theorem connect_ok {world world' : World} {place : Nat} {link : Link} {socket : Socket}
    (h : world.connect place link socket = (.ok (), world')) :
    world'.links = world.links.set place { link with socket := some world.sockets.length } ∧
      ∃ opened, world'.sockets = world.sockets ++ [opened] ∧ opened.sent = socket.sent := by
  unfold connect at h
  dsimp only at h
  split at h
  · cases h
    exact ⟨rfl, _, rfl, rfl⟩
  · cases congrArg Prod.fst h
  · cases congrArg Prod.fst h
  · cases h

/-- The link of a label is right behind its start: nothing has been read from its connection, and
nothing was sent on it. -/
def Fresh (label : String) (world : World) : Prop :=
  ∃ place link socket, world.findLink label = some (place, link) ∧ (world.station link).Started ∧
    (world.station link).socket = some socket ∧ socket.sent = []

theorem fresh_of_start {world world' : World} {label : String}
    (h : world.start label = (.ok (), world')) : world'.Fresh label := by
  unfold start at h
  cases hfind : world.findLink label with
  | none =>
      rw [hfind] at h
      cases h
  | some found =>
      obtain ⟨place, link⟩ := found
      rw [hfind] at h
      dsimp only at h
      split at h
      · cases h
      · rename_i hopening
        obtain ⟨services, outages, rfl⟩ := eq_of_openConnection hopening
        obtain ⟨hlinks, opened, hsockets, hsent⟩ := connect_ok h
        have hlabel : link.config.label = label := (findLink_eq_some_iff.mp hfind).2.1
        have hrenewed : (world.setLink place link.renewed).findLink label =
            some (place, link.renewed) := findLink_setLink hfind hlabel
        have hconnected : world'.links = ((world.setLink place link.renewed).setLink place
            { link.renewed with socket := some world.sockets.length }).links := hlinks
        have hopened : world'.sockets[world.sockets.length]? = some opened := by
          rw [hsockets]
          exact List.getElem?_concat_length
        refine ⟨place, { link.renewed with socket := some world.sockets.length }, opened, ?_,
          ⟨Option.isSome_iff_exists.mpr ⟨opened, hopened⟩, rfl, rfl, rfl⟩, hopened, hsent⟩
        rw [findLink_congr hconnected]
        exact findLink_setLink hrenewed hlabel

end World

end MailScript.Network
