import SegmentOffload.Proofs.ChunkPaths

/-!
What lies below a path.

Everything of a segment lies below its namespace, whose number is closed by a slash, and so nothing of
another segment does.  Nothing closes the digest of a relation: the path of a relation is the front of
another one's chunks when the one digest is the front of the other and the oids agree.  Digests of one
length rule that out, whether they are as long in characters or in bytes.
-/

namespace SegmentOffload

/-! ### Texts of one length -/

def SameLength (left right : String) : Prop :=
  left.toList.length = right.toList.length ∨ (textBytes left).length = (textBytes right).length

instance (left right : String) : Decidable (SameLength left right) :=
  inferInstanceAs (Decidable (_ ∨ _))

theorem SameLength.eq_of_append {left right : String} (same : SameLength left right)
    {after behind : List Char} (lists : left.toList ++ after = right.toList ++ behind) :
    left = right := by
  rcases same with characters | bytes
  · exact String.toList_inj.mp (List.append_inj_left lists characters)
  · have encoded := congrArg (List.flatMap String.utf8EncodeChar) lists
    rw [List.flatMap_append, List.flatMap_append, ← textBytes_eq_flatMap,
      ← textBytes_eq_flatMap] at encoded
    have alike := congrArg bytesText? (List.append_inj_left encoded bytes)
    rw [bytesText?_textBytes, bytesText?_textBytes] at alike
    exact Option.some.inj alike

namespace Segment

/-! ### Files of one relation -/

/-- The coordinates that all files of a relation share. -/
def SameRelation (segment other : Segment) : Prop :=
  segment.segmentIndex = other.segmentIndex ∧ segment.tableSpaceOid = other.tableSpaceOid ∧
    segment.databaseOid = other.databaseOid ∧ segment.relationHash = other.relationHash

instance (segment other : Segment) : Decidable (segment.SameRelation other) :=
  inferInstanceAs (Decidable (_ ∧ _))

theorem SameRelation.relationPath_eq {segment other : Segment} (same : segment.SameRelation other) :
    segment.relationPath = other.relationPath := by
  obtain ⟨index, space, database, digest⟩ := same
  unfold relationPath
  rw [index, space, database, digest]

theorem relationPath_isPrefix_chunkPath (segment : Segment) (count position : UInt64) :
    segment.relationPath.toList <+: (segment.chunkPath count position).toList := by
  rw [toList_chunkPath, toList_filePath]
  split
  · simp only [List.append_assoc, List.prefix_append]
  · simp only [List.append_assoc, List.prefix_append]

theorem namespacePath_isPrefix_chunkPath (segment : Segment) (count position : UInt64) :
    (namespacePath segment.segmentIndex).toList <+: (segment.chunkPath count position).toList := by
  apply List.IsPrefix.trans _ (segment.relationPath_isPrefix_chunkPath count position)
  rw [toList_relationPath]
  exact List.prefix_append _ _

theorem beginsWith_namespacePath_iff (index : UInt32) (segment : Segment)
    (count position : UInt64) :
    beginsWith (namespacePath index) (segment.chunkPath count position) = true ↔
      segment.segmentIndex = index := by
  rw [beginsWith_eq_true_iff]
  have own := segment.namespacePath_isPrefix_chunkPath count position
  constructor
  · rintro ⟨rest, whole⟩
    obtain ⟨more, same⟩ := own
    rw [← whole] at same
    exact (namespacePath_append_inj same).1
  · intro same
    rw [← same]
    exact own

/-- The path of a relation is where the chunks of exactly its own files lie. -/
theorem beginsWith_relationPath_iff {segment other : Segment}
    (length : SameLength segment.relationHash other.relationHash) (count position : UInt64) :
    beginsWith segment.relationPath (other.chunkPath count position) = true ↔
      segment.SameRelation other := by
  rw [beginsWith_eq_true_iff]
  have own := other.relationPath_isPrefix_chunkPath count position
  constructor
  · rintro ⟨rest, whole⟩
    obtain ⟨more, same⟩ := own
    rw [← same] at whole
    obtain ⟨index, space, database, lists⟩ := relationPath_append_inj whole
    exact ⟨index, space, database, length.eq_of_append lists⟩
  · intro same
    rw [same.relationPath_eq]
    exact own

/-- Digests of different lengths do not keep relations apart. -/
example :
    beginsWith (⟨0, 1, 2, "a", 3, 4⟩ : Segment).relationPath
      ((⟨0, 1, 2, "ab", 3, 4⟩ : Segment).chunkPath 5 0) = true := by
  decide +kernel

end Segment

end SegmentOffload
