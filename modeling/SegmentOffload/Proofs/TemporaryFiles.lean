import SegmentOffload.Catalog
import SegmentOffload.Proofs.DiskFrame
import SegmentOffload.Proofs.Wire.Arrivals

/-!
Files that are written under a temporary name.

A temporary name is new, so filling and removing the file touches nothing else; a rename touches the
one file that it replaces, and then the final name shows all that was written.
-/

namespace SegmentOffload

namespace Disk

variable {replaced : Location} {earlier disk later : Disk} {temporary : Location}

/-! ### New names -/

theorem node?_temporaryName (disk : Disk) (directory : Location) :
    disk.node? (directory ++ [disk.temporaryName directory]) = none := by
  have below : directory ++ [disk.temporaryName directory] ≠ [] := by
    simp
  rw [node?_of_ne_nil _ below, Option.map_eq_none_iff, List.find?_eq_none]
  intro entry listed found
  rw [beq_iff_eq] at found
  have taken : disk.temporaryName directory ∈ disk.children directory := by
    rw [children, List.mem_filterMap]
    refine ⟨entry, listed, ?_⟩
    rw [found, List.dropLast_concat, List.getLast?_concat, if_pos ⟨rfl, below⟩]
  exact disk.naming.fresh _ _ taken

theorem keeps_makeTemporary (replaced : Location) {directory : String}
    {outcome : Except IoError Location} (made : disk.makeTemporary directory = (outcome, later)) :
    Keeps replaced disk later ∧ ∀ file, outcome = .ok file →
      file ≠ [] ∧ disk.node? file = none ∧ later.node? file = some (.file []) := by
  unfold makeTemporary at made
  split at made
  · rename_i called
    cases made
    refine ⟨keeps_call replaced called, ?_⟩
    intro file impossible
    cases impossible
  · rename_i middle called
    have kept := keeps_call replaced called
    split at made
    · cases made
      refine ⟨kept, ?_⟩
      intro file impossible
      cases impossible
    · split at made
      · cases made
        refine ⟨kept, ?_⟩
        intro file impossible
        cases impossible
      · rename_i location _
        have free : disk.node? (location ++ [middle.temporaryName location]) = none := by
          rw [← node?_call called]
          exact middle.node?_temporaryName location
        have below : location ++ [middle.temporaryName location] ≠ [] := by
          simp
        cases made
        refine ⟨(kept.put_of_none _ free).withDrawn _, ?_⟩
        intro file same
        cases same
        exact ⟨below, free, middle.node?_put_self below _⟩
    · cases made
      refine ⟨kept, ?_⟩
      intro file impossible
      cases impossible

theorem locate_eq_ok {path : String} {location : Location}
    (located : disk.locate path = .ok location) : location = disk.place path := by
  unfold locate at located
  split at located
  · cases located
  · rename_i place followed
    have here : location = place := by
      split at located
      · cases located
        rfl
      · cases located
        rfl
      · split at located
        · cases located
        · cases located
          rfl
    rw [here]
    exact follow_eq_ok followed

/-- A temporary file is made in the directory that it was asked for in. -/
theorem dropLast_of_makeTemporary {directory : String} {file : Location}
    (made : disk.makeTemporary directory = (.ok file, later)) :
    file.dropLast = disk.place directory := by
  unfold makeTemporary at made
  split at made
  · cases made
  · rename_i called
    split at made
    · cases made
    · split at made
      · cases made
      · rename_i located
        cases made
        rw [List.dropLast_concat, locate_eq_ok located]
        exact (keeps_call [] called).place directory
    · cases made

/-! ### Filling and removing -/

/-- Appending adds the front of the bytes, and all of them when it goes well. -/
theorem append_spec {content data : Bytes} {outcome : Except IoError Unit}
    (below : temporary ≠ []) (there : disk.node? temporary = some (.file content))
    (appended : disk.append temporary data = (outcome, later)) :
    (∃ turns written, later = { disk with turns }.put temporary (.file written)) ∧
      (outcome = .ok () → later.node? temporary = some (.file (content ++ data))) := by
  unfold append at appended
  rw [there] at appended
  cases appended
  refine ⟨⟨_, _, rfl⟩, ?_⟩
  intro written
  rw [node?_put_self _ below, Wire.accepted_of_writeAll written]

theorem walk_put_file {content : Bytes} (there : disk.node? temporary = some (.file content))
    (below : temporary ≠ []) (written : Bytes) (here : Location) (components : List String) :
    (disk.put temporary (.file written)).walk here components = disk.walk here components := by
  induction components generalizing here with
  | nil => rfl
  | cons component rest ih =>
    unfold walk
    by_cases same : here = temporary
    · rw [same, node?_put_self _ below, there]
    · simp only [node?_put_of_ne _ same, ih]

/-- What is in a file makes no difference to what paths name, but for what is in it. -/
theorem stat_put_file {content : Bytes} (there : disk.node? temporary = some (.file content))
    (below : temporary ≠ []) (written : Bytes) (path : String) :
    (disk.put temporary (.file written)).stat path = disk.stat path ∨
      (disk.put temporary (.file written)).stat path = .ok (.file written) ∧
        disk.stat path = .ok (.file content) := by
  have alike : (disk.put temporary (.file written)).follow path = disk.follow path := by
    unfold follow
    rw [walk_put_file there below]
    rfl
  cases followed : disk.follow path with
  | error error =>
    rw [followed] at alike
    rw [stat_of_unfollowed followed, stat_of_unfollowed alike]
    exact .inl rfl
  | ok place =>
    rw [followed] at alike
    rw [stat_of_followed followed, stat_of_followed alike]
    by_cases same : place = temporary
    · rw [same, node?_put_self _ below, there]
      cases holdsNul path with
      | true => exact .inl rfl
      | false =>
        cases Path.endsWithSlash path with
        | true => exact .inl rfl
        | false => exact .inr ⟨rfl, rfl⟩
    · rw [node?_put_of_ne _ same]
      exact .inl rfl

/-- What is in a file makes no difference to reaching a socket. -/
theorem reachSocket_put_file {content : Bytes} (there : disk.node? temporary = some (.file content))
    (below : temporary ≠ []) (written : Bytes) (socket : String) :
    (disk.put temporary (.file written)).reachSocket socket = disk.reachSocket socket := by
  unfold reachSocket
  rcases stat_put_file there below written socket with same | ⟨now, before⟩
  · rw [same]
  · rw [now, before]

theorem reachSocket_append {content data : Bytes} {outcome : Except IoError Unit}
    (there : disk.node? temporary = some (.file content)) (below : temporary ≠ [])
    (appended : disk.append temporary data = (outcome, later)) (socket : String) :
    later.reachSocket socket = disk.reachSocket socket := by
  obtain ⟨⟨turns, written, rfl⟩, _⟩ := append_spec below there appended
  have turned : Disk.reachSocket { disk with turns } socket = disk.reachSocket socket := by
    rw [reachSocket, reachSocket, stat_turns]
  have still : Disk.node? { disk with turns } temporary = some (.file content) := there
  rw [← turned]
  exact reachSocket_put_file still below written socket

theorem Keeps.append (kept : Keeps replaced earlier disk) {content data : Bytes}
    {outcome : Except IoError Unit} (new : earlier.node? temporary = none)
    (below : temporary ≠ []) (there : disk.node? temporary = some (.file content))
    (appended : disk.append temporary data = (outcome, later)) :
    Keeps replaced earlier later := by
  obtain ⟨⟨turns, written, rfl⟩, _⟩ := append_spec below there appended
  exact (kept.withTurns turns).put_of_none _ new

/-! ### Renaming -/

theorem destination_eq_ok {path : String} {location : Location}
    (found : disk.destination path = .ok location) :
    holdsNul path = false ∧ Path.endsWithSlash path = false ∧ disk.follow path = .ok location ∧
      disk.node? location ≠ some .directory := by
  unfold destination at found
  simp only at found
  split at found
  · cases found
  · rename_i free
    rw [Bool.not_eq_true] at free
    split at found
    · cases found
    · split at found
      · cases found
      · split at found
        · cases found
        · split at found
          · cases found
          · rename_i location' followed
            split at found
            · cases found
            · rename_i slash
              rw [Bool.not_eq_true] at slash
              split at found
              · cases found
              · rename_i noDirectory
                cases found
                exact ⟨free, slash, followed, noDirectory⟩

theorem ne_nil_of_not_directory {location : Location}
    (noDirectory : disk.node? location ≠ some .directory) : location ≠ [] := by
  intro root
  rw [root] at noDirectory
  exact noDirectory disk.node?_nil

theorem keeps_put (disk : Disk) {location : Location}
    (noDirectory : disk.node? location ≠ some .directory) (node : Node) :
    Keeps location disk (disk.put location node) := by
  refine (Keeps.refl location disk).ofPlace rfl
    (fun other apart => disk.node?_put_of_ne apart node) ?_ (fun _ => noDirectory) ?_
  · intro _
    rfl
  · intro content apart
    exact absurd rfl apart

theorem noDirectory_erase {location : Location}
    (noDirectory : disk.node? location ≠ some .directory) :
    (disk.erase temporary).node? location ≠ some .directory := by
  by_cases same : location = temporary
  · have below : temporary ≠ [] := same ▸ ne_nil_of_not_directory noDirectory
    rw [same, node?_erase_self _ below]
    intro impossible
    cases impossible
  · rw [node?_erase_of_ne _ same]
    exact noDirectory

/-- Only a file under a temporary name is gone. -/
theorem keeps_erase {content : Bytes} (there : disk.node? temporary = some (.file content)) :
    Keeps temporary disk (disk.erase temporary) := by
  refine (Keeps.refl temporary disk).ofPlace rfl
    (fun other apart => disk.node?_erase_of_ne apart) (fun _ => rfl) ?_
    (fun content apart => absurd rfl apart)
  intro _ directory
  rw [there] at directory
  cases directory

/-- How a rename ends: the file has taken the place of whatever file was there, or everything is as it
was, but for the turn. -/
theorem persist_cases {path : String} {outcome : Except IoError Unit}
    (persisted : disk.persist temporary path = (outcome, later)) :
    ∃ result middle, disk.call = (result, middle) ∧
      ((∃ error, outcome = .error error ∧ later = middle) ∨
        ∃ location written, outcome = .ok () ∧ middle.destination path = .ok location ∧
          later = (middle.erase temporary).put location (.file written) ∧
          ∀ content, disk.node? temporary = some (.file content) → written = content) := by
  unfold persist at persisted
  cases called : disk.call with
  | mk result middle =>
    refine ⟨result, middle, rfl, ?_⟩
    rw [called] at persisted
    cases result with
    | error error =>
      cases persisted
      exact .inl ⟨error, rfl, rfl⟩
    | ok nothing =>
      dsimp only at persisted
      cases found : middle.destination path with
      | error error =>
        rw [found] at persisted
        cases persisted
        exact .inl ⟨error, rfl, rfl⟩
      | ok location =>
        rw [found] at persisted
        cases persisted
        refine .inr ⟨location, _, rfl, rfl, rfl, ?_⟩
        intro content there
        rw [node?_call called, there]

/-- A rename replaces at most the file that its path leads to. -/
theorem Keeps.persist {path : String} {outcome : Except IoError Unit}
    (kept : Keeps (earlier.place path) earlier disk) (new : earlier.node? temporary = none)
    (persisted : disk.persist temporary path = (outcome, later)) :
    Keeps (earlier.place path) earlier later := by
  obtain ⟨_, middle, called, ⟨_, _, rfl⟩ | ⟨location, _, _, found, rfl, _⟩⟩ :=
    persist_cases persisted
  · exact kept.trans (keeps_call _ called)
  · have before := kept.trans (keeps_call (earlier.place path) called)
    obtain ⟨_, _, followed, noDirectory⟩ := destination_eq_ok found
    have here := follow_eq_ok followed
    rw [before.place] at here
    rw [← here] at before ⊢
    exact (before.erase_of_none new).trans (keeps_put _ (noDirectory_erase noDirectory) _)

theorem stat_of_persist {path : String} {content : Bytes}
    (there : disk.node? temporary = some (.file content))
    (persisted : disk.persist temporary path = (.ok (), later)) :
    later.stat path = .ok (.file content) := by
  obtain ⟨_, middle, called, ⟨_, impossible, _⟩ | ⟨location, written, _, found, rfl, whole⟩⟩ :=
    persist_cases persisted
  · cases impossible
  · rw [whole content there]
    obtain ⟨free, slash, followed, noDirectory⟩ := destination_eq_ok found
    have still : middle.node? temporary = some (.file content) :=
      (node?_call called temporary).trans there
    have gone := (keeps_erase still).follow followed
    apply stat_eq_file_iff.mpr
    refine ⟨free, slash, location, ?_, ?_⟩
    · exact (keeps_put _ (noDirectory_erase noDirectory) _).follow gone
    · exact node?_put_self _ (ne_nil_of_not_directory noDirectory) _

end Disk

/-! ### Catalogs -/

namespace Catalog

open Disk (Keeps)

theorem keeps_fill {replaced : Location} {earlier disk later : Disk} {temporary : Location}
    {rows : List CatalogRow} {outcome : Except IoError Unit} (kept : Keeps replaced earlier disk)
    (new : earlier.node? temporary = none) (below : temporary ≠ [])
    (there : disk.node? temporary = some (.file []))
    (filled : fill disk temporary rows = (outcome, later)) : Keeps replaced earlier later := by
  unfold fill at filled
  split at filled
  · rename_i appended
    cases filled
    exact (kept.append new below there appended).erase_of_none new
  · rename_i appended
    have written := kept.append new below there appended
    split at filled
    · rename_i synced
      cases filled
      exact (written.trans (Disk.keeps_call replaced synced)).erase_of_none new
    · rename_i synced
      cases filled
      exact written.trans (Disk.keeps_call replaced synced)

/-- Saving a catalog, however it ends, replaces at most the catalog's own file. -/
theorem keeps_save {disk later : Disk} {path : String} {rows : List CatalogRow}
    {outcome : Except ClientError Unit} (saved : save disk path rows = (outcome, later)) :
    Keeps (disk.place path) disk later := by
  unfold save at saved
  simp only at saved
  split at saved
  · rename_i made
    cases saved
    exact Disk.keeps_makeDirectories _ made
  · rename_i ready made
    have prepared := Disk.keeps_makeDirectories (disk.place path) made
    split at saved
    · rename_i tried
      cases saved
      exact prepared.trans (Disk.keeps_makeTemporary _ tried).1
    · rename_i temporary full tried
      obtain ⟨begun, new⟩ := Disk.keeps_makeTemporary (disk.place path) tried
      obtain ⟨below, free, there⟩ := new temporary rfl
      have place := prepared.place path
      -- The temporary name is new on the disk that the directories were made on.
      suffices rest : Keeps (disk.place path) ready later by
        exact prepared.trans rest
      split at saved
      · rename_i filled
        cases saved
        exact keeps_fill begun free below there filled
      · rename_i filled
        have written := keeps_fill begun free below there filled
        rw [← place] at written ⊢
        split at saved
        · rename_i persisted
          cases saved
          exact (written.persist free persisted).erase_of_none free
        · rename_i persisted
          cases saved
          exact written.persist free persisted

/-- A change of the catalog that fails leaves its rows, and any change keeps the other files. -/
theorem record_cases {catalog later : Catalog} {row : CatalogRow} {disk after : Disk}
    {outcome : Except ClientError Unit}
    (recorded : catalog.record row disk = (outcome, later, after)) :
    Keeps (disk.place catalog.path) disk after ∧
      (outcome = .ok () → later = { catalog with rows := catalog.rows ++ [row] }) ∧
      (∀ error, outcome = .error error → later = catalog) := by
  unfold record replace at recorded
  split at recorded
  · rename_i saved
    cases recorded
    refine ⟨keeps_save saved, fun _ => rfl, ?_⟩
    intro error impossible
    cases impossible
  · rename_i saved
    cases recorded
    refine ⟨keeps_save saved, ?_, fun _ _ => rfl⟩
    intro impossible
    cases impossible

/-- A recorded row comes last of its segment, and other segments do not see it. -/
theorem chunksOf_append (catalog : Catalog) (row : CatalogRow) (segment : Segment) :
    chunksOf { catalog with rows := catalog.rows ++ [row] } segment =
      catalog.chunksOf segment ++ if row.segment = segment then [row.chunk] else [] := by
  unfold chunksOf
  rw [List.filter_append, List.map_append]
  by_cases here : row.segment = segment
  · rw [if_pos here, List.filter_cons_of_pos (by rw [decide_eq_true here]), List.filter_nil,
      List.map_singleton]
  · rw [if_neg here, List.filter_cons_of_neg (by rw [decide_eq_false here]; decide),
      List.filter_nil, List.map_nil]

end Catalog

end SegmentOffload
