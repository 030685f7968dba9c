import SegmentOffload.Chunk
import SegmentOffload.Proofs.DecimalDigits

/-!
A chunk's path tells which chunk it is.

Numbers stand between characters that are no digits, so a path can be taken apart: from the front up
to the relation's digest, and from the back down to it.  The digest itself may be any text.
-/

namespace SegmentOffload

/-! ### Taking texts apart -/

theorem append_cons_inj_front {α : Type} {mark : α} {left right after behind : List α}
    (leftFree : mark ∉ left) (rightFree : mark ∉ right)
    (same : left ++ mark :: after = right ++ mark :: behind) : left = right ∧ after = behind := by
  induction left generalizing right with
  | nil =>
    cases right with
    | nil => exact ⟨rfl, List.tail_eq_of_cons_eq same⟩
    | cons first rest =>
      have impossible := List.head_eq_of_cons_eq same
      rw [impossible] at rightFree
      exact absurd (List.mem_cons_self ..) rightFree
  | cons first rest ih =>
    cases right with
    | nil =>
      have impossible := List.head_eq_of_cons_eq same
      rw [impossible] at leftFree
      exact absurd (List.mem_cons_self ..) leftFree
    | cons other more =>
      have sameFirst := List.head_eq_of_cons_eq same
      have sameRest := List.tail_eq_of_cons_eq same
      have restFree : mark ∉ rest := by
        intro member
        exact leftFree (List.mem_cons_of_mem _ member)
      have moreFree : mark ∉ more := by
        intro member
        exact rightFree (List.mem_cons_of_mem _ member)
      obtain ⟨equal, behindEqual⟩ := ih restFree moreFree sameRest
      rw [sameFirst, equal]
      exact ⟨rfl, behindEqual⟩

theorem append_cons_inj_back {α : Type} {mark : α} {left right after behind : List α}
    (afterFree : mark ∉ after) (behindFree : mark ∉ behind)
    (same : left ++ mark :: after = right ++ mark :: behind) : left = right ∧ after = behind := by
  have turned := congrArg List.reverse same
  rw [List.reverse_append, List.reverse_append, List.reverse_cons, List.reverse_cons,
    List.append_assoc, List.append_assoc] at turned
  obtain ⟨sameBack, sameFront⟩ := append_cons_inj_front
    (by rw [List.mem_reverse]; exact afterFree) (by rw [List.mem_reverse]; exact behindFree) turned
  exact ⟨List.reverse_inj.mp sameFront, List.reverse_inj.mp sameBack⟩

theorem decimalDigits_injective {left right : Nat}
    (same : decimalDigits left = decimalDigits right) : left = right := by
  have leftRead := parseDecimal_decimal (Nat.lt_succ_of_le (Nat.le_max_left left right))
  have rightRead := parseDecimal_decimal (Nat.lt_succ_of_le (Nat.le_max_right left right))
  rw [decimal, same] at leftRead
  rw [decimal, leftRead] at rightRead
  cases rightRead
  rfl

theorem notMem_decimalDigits {number : Nat} {character : Char} (other : character.isDigit = false) :
    character ∉ decimalDigits number := by
  intro member
  rw [isDigit_of_mem_decimalDigits member] at other
  cases other

theorem append_mark_decimal_inj {mark : Char} {left right : List Char} {number other : Nat}
    (noDigit : mark.isDigit = false)
    (same : left ++ mark :: decimalDigits number = right ++ mark :: decimalDigits other) :
    left = right ∧ number = other := by
  obtain ⟨sameLeft, sameDigits⟩ := append_cons_inj_back (notMem_decimalDigits noDigit)
    (notMem_decimalDigits noDigit) same
  exact ⟨sameLeft, decimalDigits_injective sameDigits⟩

theorem decimal_mark_append_inj {mark : Char} {after behind : List Char} {number other : Nat}
    (noDigit : mark.isDigit = false)
    (same : decimalDigits number ++ mark :: after = decimalDigits other ++ mark :: behind) :
    number = other ∧ after = behind := by
  obtain ⟨sameDigits, sameAfter⟩ := append_cons_inj_front (notMem_decimalDigits noDigit)
    (notMem_decimalDigits noDigit) same
  exact ⟨decimalDigits_injective sameDigits, sameAfter⟩

/-! ### Paths -/

theorem toList_decimal (number : Nat) : (decimal number).toList = decimalDigits number := by
  rw [decimal, String.toList_ofList]

theorem toList_underscore : "_".toList = ['_'] := by
  simp

theorem toList_inner :
    "/basebackups_005/yezzey/".toList = '/' :: "basebackups_005/yezzey/".toList := by
  simp

theorem toList_namespacePath (segmentIndex : UInt32) :
    (namespacePath segmentIndex).toList =
      "/segments_005/seg".toList ++ (decimalDigits segmentIndex.toNat ++
        '/' :: "basebackups_005/yezzey/".toList) := by
  unfold namespacePath
  rw [String.toList_append, String.toList_append, toList_decimal, toList_inner, List.append_assoc]

theorem toList_relationPath (segment : Segment) :
    segment.relationPath.toList =
      (namespacePath segment.segmentIndex).toList ++ (decimalDigits segment.tableSpaceOid.toNat ++
        '_' :: (decimalDigits segment.databaseOid.toNat ++ '_' :: segment.relationHash.toList)) := by
  unfold Segment.relationPath
  simp only [String.toList_append, toList_decimal, toList_underscore, List.append_assoc,
    List.cons_append, List.nil_append]

theorem toList_filePath (segment : Segment) :
    segment.filePath.toList =
      (segment.relationPath.toList ++ '_' :: decimalDigits segment.relfilenode.toNat) ++
        '_' :: decimalDigits segment.blockNumber.toNat ++ ['_'] := by
  unfold Segment.filePath
  simp only [String.toList_append, toList_decimal, toList_underscore, List.append_assoc,
    List.cons_append, List.nil_append]

theorem namespacePath_append_inj {index other : UInt32} {after behind : List Char}
    (same : (namespacePath index).toList ++ after = (namespacePath other).toList ++ behind) :
    index = other ∧ after = behind := by
  rw [toList_namespacePath, toList_namespacePath] at same
  simp only [List.append_assoc, List.cons_append, List.append_right_inj] at same
  obtain ⟨number, same⟩ := decimal_mark_append_inj (by decide) same
  exact ⟨UInt32.toNat_inj.mp number, List.append_cancel_left same⟩

/-- What follows the path of a relation can be taken off up to the digest, which has no mark of its
own behind it. -/
theorem relationPath_append_inj {segment other : Segment} {after behind : List Char}
    (same : segment.relationPath.toList ++ after = other.relationPath.toList ++ behind) :
    segment.segmentIndex = other.segmentIndex ∧ segment.tableSpaceOid = other.tableSpaceOid ∧
      segment.databaseOid = other.databaseOid ∧
      segment.relationHash.toList ++ after = other.relationHash.toList ++ behind := by
  rw [toList_relationPath, toList_relationPath] at same
  simp only [List.append_assoc, List.cons_append] at same
  obtain ⟨index, same⟩ := namespacePath_append_inj same
  obtain ⟨space, same⟩ := decimal_mark_append_inj (by decide) same
  obtain ⟨database, same⟩ := decimal_mark_append_inj (by decide) same
  exact ⟨index, UInt32.toNat_inj.mp space, UInt32.toNat_inj.mp database, same⟩

theorem relationPath_injective {segment other : Segment}
    (same : segment.relationPath = other.relationPath) :
    segment.segmentIndex = other.segmentIndex ∧ segment.tableSpaceOid = other.tableSpaceOid ∧
      segment.databaseOid = other.databaseOid ∧ segment.relationHash = other.relationHash := by
  have lists : segment.relationPath.toList ++ [] = other.relationPath.toList ++ [] := by rw [same]
  obtain ⟨index, space, database, digest⟩ := relationPath_append_inj lists
  rw [List.append_left_inj] at digest
  exact ⟨index, space, database, String.toList_inj.mp digest⟩

theorem filePath_injective {segment other : Segment} (same : segment.filePath = other.filePath) :
    segment = other := by
  have lists := congrArg String.toList same
  rw [toList_filePath, toList_filePath, List.append_left_inj] at lists
  obtain ⟨lists, block⟩ := append_mark_decimal_inj (by decide) lists
  obtain ⟨relation, file⟩ := append_mark_decimal_inj (by decide) lists
  obtain ⟨index, space, database, hash⟩ := relationPath_injective (String.toList_inj.mp relation)
  have sameFile := UInt32.toNat_inj.mp file
  have sameBlock := UInt32.toNat_inj.mp block
  cases segment
  cases other
  simp only at index space database hash sameFile sameBlock
  rw [index, space, database, hash, sameFile, sameBlock]

/-- What stands behind the path of the file in a chunk's path. -/
theorem toList_chunkPath (segment : Segment) (count position : UInt64) :
    (segment.chunkPath count position).toList =
      if position = 0 then
        (segment.filePath.toList ++ "_DY".toList) ++ '_' :: decimalDigits count.toNat
      else
        (((segment.filePath.toList ++ "_DY".toList) ++ '_' :: decimalDigits count.toNat) ++
          "_xlog".toList) ++ '_' :: decimalDigits position.toNat := by
  have dirty : "_DY_".toList = "_DY".toList ++ ['_'] := by simp
  have log : "_xlog_".toList = "_xlog".toList ++ ['_'] := by simp
  unfold Segment.chunkPath SegmentOffload.chunkPath
  by_cases none : position = 0
  · rw [if_pos none]
    simp only [none, if_true, String.toList_append, toList_decimal, dirty, List.append_assoc,
      List.cons_append, List.nil_append]
  · rw [if_neg none]
    simp only [none, if_false, String.toList_append, toList_decimal, dirty, log,
      List.append_assoc, List.cons_append, List.nil_append]

theorem append_dirty_ne_append_log (left right : List Char) :
    left ++ "_DY".toList ≠ right ++ "_xlog".toList := by
  intro same
  have last := congrArg List.getLast? same
  simp at last

theorem nulFree_namespacePath (segmentIndex : UInt32) : NulFree (namespacePath segmentIndex) := by
  have outer : NulFree "/segments_005/seg" := by decide +kernel
  have inner : NulFree "/basebackups_005/yezzey/" := by decide +kernel
  exact (outer.append (nulFree_decimal _)).append inner

theorem nulFree_relationPath {segment : Segment} (digest : NulFree segment.relationHash) :
    NulFree segment.relationPath := by
  have mark : NulFree "_" := by decide
  have free := nulFree_namespacePath segment.segmentIndex
  exact ((((free.append (nulFree_decimal _)).append mark).append (nulFree_decimal _)).append
    mark).append digest

theorem nulFree_filePath {segment : Segment} (digest : NulFree segment.relationHash) :
    NulFree segment.filePath := by
  have mark : NulFree "_" := by decide
  have free := nulFree_relationPath digest
  exact ((((free.append mark).append (nulFree_decimal _)).append mark).append
    (nulFree_decimal _)).append mark

theorem nulFree_chunkPath {segment : Segment} (digest : NulFree segment.relationHash)
    (count position : UInt64) : NulFree (segment.chunkPath count position) := by
  have dirty : NulFree "_DY_" := by decide
  have log : NulFree "_xlog_" := by decide
  have stem := ((nulFree_filePath digest).append dirty).append (nulFree_decimal count.toNat)
  unfold Segment.chunkPath SegmentOffload.chunkPath
  simp only
  split
  · exact stem
  · exact (stem.append log).append (nulFree_decimal _)

theorem length_chunkPath_le (segment : Segment) (count position : UInt64) :
    (textBytes (segment.chunkPath count position)).length ≤
      (textBytes segment.filePath).length + 50 := by
  have dirty : (textBytes "_DY_").length = 4 := by decide +kernel
  have log : (textBytes "_xlog_").length = 6 := by decide +kernel
  have counted := length_textBytes_word_le count
  have positioned := length_textBytes_word_le position
  unfold Segment.chunkPath SegmentOffload.chunkPath
  simp only
  split
  · simp only [textBytes_append, List.length_append, dirty]
    omega
  · simp only [textBytes_append, List.length_append, dirty, log]
    omega

/-- Chunks with one path are one chunk of one segment file. -/
theorem chunkPath_injective {segment other : Segment}
    {count otherCount position otherPosition : UInt64}
    (same : segment.chunkPath count position = other.chunkPath otherCount otherPosition) :
    segment = other ∧ count = otherCount ∧ position = otherPosition := by
  have lists := congrArg String.toList same
  rw [toList_chunkPath, toList_chunkPath] at lists
  by_cases none : position = 0
  · by_cases otherNone : otherPosition = 0
    · rw [if_pos none, if_pos otherNone] at lists
      obtain ⟨stem, sameCount⟩ := append_mark_decimal_inj (by decide) lists
      rw [List.append_left_inj] at stem
      refine ⟨filePath_injective (String.toList_inj.mp stem), UInt64.toNat_inj.mp sameCount, ?_⟩
      rw [none, otherNone]
    · rw [if_pos none, if_neg otherNone] at lists
      obtain ⟨stem, _⟩ := append_mark_decimal_inj (by decide) lists
      exact absurd stem (append_dirty_ne_append_log _ _)
  · by_cases otherNone : otherPosition = 0
    · rw [if_neg none, if_pos otherNone] at lists
      obtain ⟨stem, _⟩ := append_mark_decimal_inj (by decide) lists
      exact absurd stem.symm (append_dirty_ne_append_log _ _)
    · rw [if_neg none, if_neg otherNone] at lists
      obtain ⟨stem, samePosition⟩ := append_mark_decimal_inj (by decide) lists
      rw [List.append_left_inj] at stem
      obtain ⟨file, sameCount⟩ := append_mark_decimal_inj (by decide) stem
      rw [List.append_left_inj] at file
      exact ⟨filePath_injective (String.toList_inj.mp file), UInt64.toNat_inj.mp sameCount,
        UInt64.toNat_inj.mp samePosition⟩

/-- Two chunks, of whatever files and with whatever digests, lie at one path only when they agree in
every coordinate of the file, in the modification count and in the log position. -/
theorem chunk_paths_agree_iff (segment other : Segment)
    (count otherCount position otherPosition : UInt64) :
    segment.chunkPath count position = other.chunkPath otherCount otherPosition ↔
      segment.segmentIndex = other.segmentIndex ∧ segment.tableSpaceOid = other.tableSpaceOid ∧
        segment.databaseOid = other.databaseOid ∧ segment.relationHash = other.relationHash ∧
        segment.relfilenode = other.relfilenode ∧ segment.blockNumber = other.blockNumber ∧
        count = otherCount ∧ position = otherPosition := by
  constructor
  · intro same
    obtain ⟨rfl, rfl, rfl⟩ := chunkPath_injective same
    exact ⟨rfl, rfl, rfl, rfl, rfl, rfl, rfl, rfl⟩
  · rintro ⟨index, space, database, digest, file, block, rfl, rfl⟩
    have one : segment = other := by
      cases segment
      cases other
      simp only at index space database digest file block
      rw [index, space, database, digest, file, block]
    rw [one]

/-- A digest that looks like the end of a path does not make one path of two. -/
example :
    (⟨0, 1, 2, "a_3_4__DY_5", 6, 7⟩ : Segment).chunkPath 8 9 ≠
      (⟨0, 1, 2, "a", 3, 4⟩ : Segment).chunkPath 5 9 := by
  decide +kernel

end SegmentOffload
