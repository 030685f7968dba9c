import Mathlib.Algebra.Ring.Nat
import SegmentOffload.Wire.Stream

/-!
What reads and writes take from a stream.

A read hands out the front of the bytes that are still to arrive and leaves the others in their
order; a write that goes well has offered every byte.
-/

namespace SegmentOffload.Wire

/-! ### Reading -/

def Arrival.data : Arrival → Bytes
  | bytes data => data
  | interrupted => []
  | fail _ => []

/-- All bytes that are still to arrive, in order. -/
def arrivingBytes (arrivals : List Arrival) : Bytes :=
  arrivals.flatMap Arrival.data

@[simp] theorem arrivingBytes_cons (arrival : Arrival) (later : List Arrival) :
    arrivingBytes (arrival :: later) = arrival.data ++ arrivingBytes later := rfl

theorem arrivingBytes_of_readOnce {limit : Nat} {arrivals later : List Arrival} {data : Bytes}
    (read : readOnce limit arrivals = (.bytes data, later)) :
    arrivingBytes arrivals = data ++ arrivingBytes later := by
  unfold readOnce at read
  split at read
  · cases read
    rfl
  · split at read
    · cases read
      rfl
    · rename_i whole rest
      split at read
      · cases read
        rfl
      · cases read
        simp only [arrivingBytes_cons, Arrival.data]
        rw [← List.append_assoc, List.take_append_drop]
    · cases read
    · cases read

theorem readOnce_ne_interrupted {limit : Nat} {arrivals later : List Arrival}
    (first : ∀ rest, arrivals ≠ .interrupted :: rest) :
    readOnce limit arrivals ≠ (.interrupted, later) := by
  intro read
  unfold readOnce at read
  split at read
  · cases read
  · split at read
    · cases read
    · split at read <;> cases read
    · rename_i rest
      exact first rest rfl
    · cases read

/-- What is read stands in front of what is left. -/
theorem arrivingBytes_of_readPatiently {limit : Nat} {arrivals later : List Arrival} {data : Bytes}
    (read : readPatiently limit arrivals = (.ok data, later)) :
    arrivingBytes arrivals = data ++ arrivingBytes later := by
  induction arrivals with
  | nil =>
    rw [readPatiently] at read
    · split at read
      · rename_i once
        cases read
        exact arrivingBytes_of_readOnce once
      · rename_i once
        exact absurd once (readOnce_ne_interrupted (by intro rest same; cases same))
      · cases read
    · intro later same
      cases same
  | cons first rest ih =>
    by_cases interrupted : first = .interrupted
    · rw [interrupted, readPatiently] at read
      rw [interrupted]
      exact ih read
    · have other : ∀ later, first :: rest ≠ .interrupted :: later := by
        intro later same
        cases same
        exact interrupted rfl
      rw [readPatiently] at read
      · split at read
        · rename_i once
          cases read
          exact arrivingBytes_of_readOnce once
        · rename_i once
          exact absurd once (readOnce_ne_interrupted other)
        · cases read
      · exact other

/-! ### Reading an exact number of bytes -/

/-- An arrival that brings bytes, or has them waited for. -/
def Arrival.Delivers : Arrival → Prop
  | bytes data => data ≠ []
  | interrupted => True
  | fail _ => False

instance : DecidablePred Arrival.Delivers
  | .bytes data => inferInstanceAs (Decidable (data ≠ []))
  | .interrupted => isTrue trivial
  | .fail _ => isFalse id

theorem readExact_bytes {wanted : Nat} {data : Bytes} {later : List Arrival} (positive : wanted ≠ 0)
    (nonempty : data ≠ []) :
    readExact wanted (.bytes data :: later) =
      if wanted < data.length then (.ok (data.take wanted), .bytes (data.drop wanted) :: later)
      else
        ((readExact (wanted - data.length) later).1.map (data ++ ·),
          (readExact (wanted - data.length) later).2) := by
  rw [readExact]
  · rw [List.isEmpty_eq_false_iff.mpr nonempty]
    simp only [Bool.false_eq_true, if_false]
    split
    · rfl
    · split <;> simp_all only [Except.map]
  · exact positive

/-- Bytes enough are read off the front, however they are cut. -/
theorem readExact_of_le {wanted : Nat} {arrivals : List Arrival}
    (deliver : ∀ arrival ∈ arrivals, arrival.Delivers)
    (enough : wanted ≤ (arrivingBytes arrivals).length) :
    ∃ later, readExact wanted arrivals = (.ok ((arrivingBytes arrivals).take wanted), later) ∧
      arrivingBytes later = (arrivingBytes arrivals).drop wanted ∧
      ∀ arrival ∈ later, arrival.Delivers := by
  induction arrivals generalizing wanted with
  | nil =>
    have none : wanted = 0 := Nat.le_zero.mp enough
    rw [none]
    exact ⟨[], rfl, rfl, deliver⟩
  | cons first rest ih =>
    by_cases none : wanted = 0
    · rw [none]
      exact ⟨first :: rest, by rw [readExact, List.take_zero], rfl, deliver⟩
    · obtain ⟨here, others⟩ := List.forall_mem_cons.mp deliver
      cases first with
      | bytes data =>
        rw [readExact_bytes none here]
        rw [arrivingBytes_cons, Arrival.data] at enough ⊢
        by_cases more : wanted < data.length
        · rw [if_pos more]
          refine ⟨_, by rw [List.take_append_of_le_length (Nat.le_of_lt more)], ?_, ?_⟩
          · rw [arrivingBytes_cons, Arrival.data,
              List.drop_append_of_le_length (Nat.le_of_lt more)]
          · refine List.forall_mem_cons.mpr ⟨?_, others⟩
            intro nothing
            have size := congrArg List.length nothing
            rw [List.length_drop, List.length_nil] at size
            omega
        · rw [List.length_append] at enough
          have left : wanted - data.length ≤ (arrivingBytes rest).length := by omega
          obtain ⟨later, read, remains, delivers⟩ := ih others left
          have whole : data.length ≤ wanted := by omega
          rw [if_neg more, read]
          refine ⟨later, ?_, ?_, delivers⟩
          · rw [List.take_append, List.take_of_length_le whole]
            rfl
          · rw [remains, List.drop_append, List.drop_of_length_le whole, List.nil_append]
      | interrupted =>
        obtain ⟨later, read, remains⟩ := ih others enough
        refine ⟨later, ?_, remains⟩
        rw [readExact, read]
        · rfl
        · exact none
      | fail error => exact absurd here id

/-- Bytes that end too early leave nothing. -/
theorem readExact_of_lt {wanted : Nat} {arrivals : List Arrival}
    (deliver : ∀ arrival ∈ arrivals, arrival.Delivers)
    (short : (arrivingBytes arrivals).length < wanted) :
    readExact wanted arrivals = (.error .unexpectedEnd, []) := by
  induction arrivals generalizing wanted with
  | nil =>
    rw [readExact]
    omega
  | cons first rest ih =>
    have positive : wanted ≠ 0 := by omega
    obtain ⟨here, others⟩ := List.forall_mem_cons.mp deliver
    cases first with
    | bytes data =>
      rw [arrivingBytes_cons, Arrival.data, List.length_append] at short
      rw [readExact_bytes positive here, if_neg (by omega), ih others (by omega)]
      rfl
    | interrupted =>
      rw [readExact]
      · exact ih others short
      · exact positive
    | fail error => exact absurd here id

/-! ### Writing -/

theorem writeAll_nil (data : Bytes) : writeAll data [] = ⟨.ok (), data, []⟩ := by
  cases data <;> rfl

theorem writeAll_upTo {data : Bytes} {limit : Nat} {later : List Turn} (nonempty : data ≠ [])
    (positive : limit ≠ 0) :
    writeAll data (.upTo limit :: later) =
      { writeAll (data.drop limit) later with
        accepted := data.take limit ++ (writeAll (data.drop limit) later).accepted } := by
  cases data with
  | nil => exact absurd rfl nonempty
  | cons byte rest => exact if_neg positive

theorem accepted_of_writeAll {data : Bytes} {turns : List Turn}
    (written : (writeAll data turns).outcome = .ok ()) : (writeAll data turns).accepted = data := by
  induction turns generalizing data with
  | nil => rw [writeAll_nil]
  | cons turn later ih =>
    cases data with
    | nil => rfl
    | cons byte rest =>
      cases turn with
      | whole => rfl
      | upTo limit =>
        by_cases none : limit = 0
        · rw [none] at written
          cases written
        · rw [writeAll_upTo (List.cons_ne_nil _ _) none] at written ⊢
          have taken := ih written
          simp only [taken, List.take_append_drop]
      | interrupted =>
        change (writeAll (byte :: rest) later).accepted = byte :: rest
        exact ih written
      | fail error => cases written

theorem writeAll_of_accepted {data : Bytes} {turns : List Turn}
    (taken : (writeAll data turns).accepted = data) : (writeAll data turns).outcome = .ok () := by
  induction turns generalizing data with
  | nil => rw [writeAll_nil]
  | cons turn later ih =>
    cases data with
    | nil => rfl
    | cons byte rest =>
      cases turn with
      | whole => rfl
      | upTo limit =>
        by_cases none : limit = 0
        · rw [none] at taken
          cases taken
        · rw [writeAll_upTo (List.cons_ne_nil _ _) none] at taken ⊢
          have front := (byte :: rest).take_append_drop limit
          exact ih (List.append_cancel_left (taken.trans front.symm))
      | interrupted => exact @ih (byte :: rest) taken
      | fail error => cases taken

/-- Whatever a write comes to, what was taken is the front of what was offered. -/
theorem accepted_isPrefix_of_writeAll (data : Bytes) (turns : List Turn) :
    (writeAll data turns).accepted <+: data := by
  induction turns generalizing data with
  | nil => simp only [writeAll_nil, List.prefix_rfl]
  | cons turn later ih =>
    cases data with
    | nil => exact List.prefix_refl []
    | cons byte rest =>
      cases turn with
      | whole => exact List.prefix_refl _
      | upTo limit =>
        by_cases none : limit = 0
        · rw [none]
          exact List.nil_prefix
        · rw [writeAll_upTo (List.cons_ne_nil _ _) none]
          obtain ⟨left, same⟩ := ih ((byte :: rest).drop limit)
          refine ⟨left, ?_⟩
          rw [List.append_assoc, same, List.take_append_drop]
      | interrupted => exact ih (byte :: rest)
      | fail error => exact List.nil_prefix

/-- A turn that takes bytes, or has to be waited out. -/
def Turn.Accepts : Turn → Prop
  | whole => True
  | upTo limit => limit ≠ 0
  | interrupted => True
  | fail _ => False

instance : DecidablePred Turn.Accepts
  | .whole => isTrue trivial
  | .upTo limit => inferInstanceAs (Decidable (limit ≠ 0))
  | .interrupted => isTrue trivial
  | .fail _ => isFalse id

/-- A turn that ends a write with an error. -/
def Turn.Refuses (error : IoError) : Turn → Prop
  | whole => False
  | upTo limit => limit = 0 ∧ error = .nothingWritten
  | interrupted => False
  | fail other => error = other

/-- How many bytes a turn takes where there are enough of them, and `size` in all. -/
def Turn.room (size : Nat) : Turn → Nat
  | whole => size
  | upTo limit => limit
  | interrupted => 0
  | fail _ => 0

theorem writeAll_of_accepts {data : Bytes} {turns : List Turn}
    (accept : ∀ turn ∈ turns, turn.Accepts) :
    (writeAll data turns).outcome = .ok () ∧ (writeAll data turns).accepted = data := by
  have written : (writeAll data turns).outcome = .ok () := by
    induction turns generalizing data with
    | nil => rw [writeAll_nil]
    | cons turn later ih =>
      obtain ⟨here, others⟩ := List.forall_mem_cons.mp accept
      cases data with
      | nil => rfl
      | cons byte rest =>
        cases turn with
        | whole => rfl
        | upTo limit =>
          rw [writeAll_upTo (List.cons_ne_nil _ _) here]
          exact ih others
        | interrupted => exact ih others
        | fail error => exact absurd here id
  exact ⟨written, accepted_of_writeAll written⟩

/-- A write is broken off at the first turn that refuses it, with what was taken until then. -/
theorem writeAll_of_refusal {data : Bytes} {size : Nat} {turns later : List Turn} {turn : Turn}
    {error : IoError} (accept : ∀ turn ∈ turns, turn.Accepts) (fits : data.length ≤ size)
    (unfinished : (turns.map (Turn.room size)).sum < data.length) (refuses : turn.Refuses error) :
    writeAll data (turns ++ turn :: later) =
      ⟨.error error, data.take (turns.map (Turn.room size)).sum, later⟩ := by
  induction turns generalizing data with
  | nil =>
    have nonempty : data ≠ [] := List.length_pos_iff.mp unfinished
    cases data with
    | nil => exact absurd rfl nonempty
    | cons byte rest =>
      cases turn with
      | whole => exact absurd refuses id
      | upTo limit =>
        obtain ⟨nothing, rfl⟩ := refuses
        rw [nothing]
        rfl
      | interrupted => exact absurd refuses id
      | fail other =>
        cases refuses
        rfl
  | cons first others ih =>
    obtain ⟨here, rest⟩ := List.forall_mem_cons.mp accept
    rw [List.map_cons, List.sum_cons] at unfinished ⊢
    have nonempty : data ≠ [] := by
      intro nothing
      rw [nothing, List.length_nil] at unfinished
      omega
    cases first with
    | whole =>
      rw [Turn.room] at unfinished
      omega
    | upTo limit =>
      rw [Turn.room] at unfinished ⊢
      have left : (others.map (Turn.room size)).sum < (data.drop limit).length := by
        rw [List.length_drop]
        omega
      have smaller : (data.drop limit).length ≤ size := by
        rw [List.length_drop]
        omega
      rw [List.cons_append, writeAll_upTo nonempty here, ih rest smaller left, List.take_add]
    | interrupted =>
      rw [Turn.room, Nat.zero_add] at unfinished ⊢
      rw [← ih rest fits unfinished]
      cases data with
      | nil => exact absurd rfl nonempty
      | cons byte more => rfl
    | fail other => exact absurd here id

end SegmentOffload.Wire
