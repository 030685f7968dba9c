import SegmentOffload.Download

/-!
A download as a source of bytes.

The bytes that a download still owes bound the pulls that can give some: failures do not add to
them, and every piece that is handed out takes from them.
-/

namespace SegmentOffload

namespace Download

variable {π : Type} [Peer π]

def chunkSize : List Chunk → Nat
  | [] => 0
  | chunk :: rest => chunk.byteLength.toNat + chunkSize rest

def owed (download : Download) : Nat :=
  if download.remaining = 0 then chunkSize (download.chunks.drop download.position)
  else download.remaining + chunkSize (download.chunks.drop (download.position + 1))

def outstanding (download : Download) : Nat :=
  if download.phase.isFinal then 0 else download.owed

theorem outstanding_le_owed (download : Download) : download.outstanding ≤ download.owed := by
  unfold outstanding
  split
  · exact Nat.zero_le _
  · exact Nat.le_refl _

theorem chunkSize_drop {chunks : List Chunk} {position : Nat} {chunk : Chunk}
    (found : chunks[position]? = some chunk) :
    chunkSize (chunks.drop position) =
      chunk.byteLength.toNat + chunkSize (chunks.drop (position + 1)) := by
  obtain ⟨inside, same⟩ := List.getElem?_eq_some_iff.mp found
  rw [List.drop_eq_getElem_cons inside, same, chunkSize]

theorem owed_begin {download : Download} {chunk : Chunk}
    (found : download.chunks[download.position]? = some chunk) :
    (download.begin chunk).owed = download.owed := by
  unfold begin
  split
  · rename_i unbegun
    simp only [owed, unbegun, if_true]
    rw [chunkSize_drop found]
    split
    · rename_i empty
      rw [empty, Nat.zero_add]
    · rfl
  · rfl

theorem owed_advance {download : Download} {count : Nat} (positive : 0 < count)
    (within : count ≤ download.remaining) :
    (download.advance count).owed < download.owed := by
  have begun : download.remaining ≠ 0 := by omega
  simp only [advance]
  split
  · rename_i complete
    simp only [owed, complete, begun, if_true, if_false]
    omega
  · rename_i owing
    simp only [owed, owing, begun, if_false]
    omega

omit [Peer π] in
theorem owed_afterFailure (download : Download) : download.afterFailure.owed = download.owed := rfl

theorem readFrom_bytes {session : Session} {capacity : Nat} {download later : Download}
    {client after : Client π} {data : Bytes}
    (read : readFrom session capacity download client = .bytes data later after) :
    later.owed < download.owed := by
  simp only [readFrom] at read
  split at read
  · cases read
  · cases read
  · rename_i nonempty took
    cases read
    have bound := Network.read_length_le took
    have positive : 0 < data.length := List.length_pos_iff.mpr nonempty
    exact owed_advance positive (by omega)

theorem readFrom_failure {session : Session} {capacity : Nat} {download later : Download}
    {client after : Client π} {error : ClientError}
    (read : readFrom session capacity download client = .failure error later after) :
    later = download := by
  simp only [readFrom] at read
  split at read <;> cases read <;> rfl

theorem attempt_bytes {capacity : Nat} {disk : Disk} {download later : Download}
    {client after : Client π} {data : Bytes}
    (attempted : download.attempt capacity disk client = .bytes data later after) :
    later.owed < download.owed := by
  simp only [attempt] at attempted
  split at attempted
  · exact readFrom_bytes attempted
  · split at attempted
    · cases attempted
    · rename_i found
      split at attempted
      · cases attempted
      · have less := readFrom_bytes attempted
        have same := owed_begin found
        rw [← same]
        exact less

theorem attempt_failure {capacity : Nat} {disk : Disk} {download later : Download}
    {client after : Client π} {error : ClientError}
    (attempted : download.attempt capacity disk client = .failure error later after) :
    later.owed = download.owed := by
  simp only [attempt] at attempted
  split at attempted
  · rw [readFrom_failure attempted]
  · split at attempted
    · cases attempted
    · rename_i found
      split at attempted
      · cases attempted
        exact owed_begin found
      · rw [readFrom_failure attempted]
        exact owed_begin found

theorem pullPatiently_bytes {patience capacity : Nat} {disk : Disk} {download later : Download}
    {client after : Client π} {data : Bytes}
    (pulled :
      pullPatiently capacity disk patience download client = (.ok (.bytes data), later, after)) :
    later.owed < download.owed := by
  induction patience generalizing download client with
  | zero =>
    unfold pullPatiently at pulled
    split at pulled
    · rename_i attempted
      cases pulled
      exact attempt_bytes attempted
    · cases pulled
    · cases pulled
  | succ patience ih =>
    unfold pullPatiently at pulled
    split at pulled
    · rename_i attempted
      cases pulled
      exact attempt_bytes attempted
    · cases pulled
    · rename_i attempted
      have same := attempt_failure attempted
      split at pulled
      · rename_i one retried
        cases one
        have less := ih pulled
        rw [owed_afterFailure, same] at less
        exact less
      · cases pulled

theorem pull_bytes {capacity : Nat} {disk : Disk} {download later : Download}
    {client after : Client π} {data : Bytes} (positive : 0 < capacity)
    (pulled : download.pull capacity disk client = (.ok (.bytes data), later, after)) :
    later.outstanding < download.outstanding := by
  simp only [pull] at pulled
  split at pulled
  · cases pulled
  · cases pulled
  · rename_i unfailed unfinished
    rw [if_neg (by omega)] at pulled
    have running : download.phase.isFinal = false := by
      unfold DownloadPhase.isFinal
      split
      · rename_i finished
        exact absurd finished unfinished
      · rename_i account failed
        exact absurd failed (unfailed account)
      · rfl
    have less := pullPatiently_bytes pulled
    have most := outstanding_le_owed later
    simp only [outstanding, running, Bool.false_eq_true, if_false] at most ⊢
    omega

end Download

/-- A download together with the client it goes through and the disk that its socket is on. -/
structure ClientDownload (π : Type) where
  disk : Disk
  download : Download
  client : Client π

namespace ClientDownload

variable {π : Type} [Peer π]

def pull (capacity : Nat) (source : ClientDownload π) :
    Except ClientError Pulled × ClientDownload π :=
  let (outcome, download, client) := source.download.pull capacity source.disk source.client
  (outcome, { source with download, client })

instance : FiniteSource (ClientDownload π) where
  pull := pull
  span := fun source => source.download.outstanding
  span_lt := by
    intro capacity source later data positive pulled
    simp only [pull] at pulled
    refine @Download.pull_bytes _ _ _ source.disk _ _ source.client later.client data positive ?_
    cases outcome : source.download.pull capacity source.disk source.client with
    | mk result rest =>
      rw [outcome] at pulled
      cases pulled
      rfl

end ClientDownload

end SegmentOffload
