import MoveWire.Proofs.Wire.Reading
import MoveWire.Wire.Script

/-!
Where reads leave the cursor. A reader that is put together from single reads goes forward only and
never past the last byte, also when it fails, and when bytes are missing it says how many there
are. Main statement: this holds of every read in every sequence of reads, whatever has failed before
it, and what a read gives depends on the bytes that it passes and on no others.
-/

namespace MoveWire

variable {α β : Type}

/-- The cursor at a place of a byte string. -/
def Cursor.into (bytes : Bytes) (place : Nat) : Cursor := ⟨place, bytes.drop place⟩

/-- The place of the cursor is in these bytes or at their end, and what is behind it is unread. -/
structure Cursor.StandsIn (cursor : Cursor) (bytes : Bytes) : Prop where
  inside : cursor.offset ≤ bytes.length
  unread : cursor.rest = bytes.drop cursor.offset

/-- The bytes that the cursor goes past on its way to the next place. -/
structure Cursor.Passes (cursor : Cursor) (taken : Bytes) (next : Cursor) : Prop where
  unread : cursor.rest = taken ++ next.rest
  offset : next.offset = cursor.offset + taken.length

/-- If the error is that bytes are missing, it tells where they end, and more were needed than are
left. -/
def WireError.TellsEnd (e : WireError) (reach : Nat) : Prop :=
  ∀ place needed left, e = .unexpectedEof place needed left → place + left = reach ∧ left < needed

namespace Cursor

theorem Passes.refl (cursor : Cursor) : cursor.Passes [] cursor := ⟨rfl, rfl⟩

theorem Passes.trans {cursor middle next : Cursor} {front back : Bytes}
    (first : cursor.Passes front middle) (second : middle.Passes back next) :
    cursor.Passes (front ++ back) next where
  unread := by rw [first.unread, second.unread, List.append_assoc]
  offset := by rw [second.offset, first.offset, List.length_append, Nat.add_assoc]

/-- Going on does not move the end of the bytes. -/
theorem Passes.reach {cursor next : Cursor} {taken : Bytes} (h : cursor.Passes taken next) :
    next.offset + next.rest.length = cursor.offset + cursor.rest.length := by
  rw [h.unread, h.offset, List.length_append, Nat.add_assoc]

theorem standsIn_start (bytes : Bytes) : (start bytes).StandsIn bytes := ⟨Nat.zero_le _, rfl⟩

theorem StandsIn.reach {cursor : Cursor} {bytes : Bytes} (h : cursor.StandsIn bytes) :
    cursor.offset + cursor.rest.length = bytes.length := by
  rw [h.unread, List.length_drop, Nat.add_sub_cancel' h.inside]

theorem StandsIn.passes {cursor next : Cursor} {bytes taken : Bytes} (h : cursor.StandsIn bytes)
    (passes : cursor.Passes taken next) : next.StandsIn bytes where
  inside := by
    have reach := h.reach
    rw [← passes.reach] at reach
    omega
  unread := by
    have unread := passes.unread
    rw [h.unread] at unread
    rw [passes.offset, ← List.drop_drop, unread, List.drop_left]

/-- What is passed stands between the two places. -/
theorem StandsIn.extract {cursor next : Cursor} {bytes taken : Bytes} (h : cursor.StandsIn bytes)
    (passes : cursor.Passes taken next) : bytes.extract cursor.offset next.offset = taken := by
  have unread := passes.unread
  rw [h.unread] at unread
  rw [List.extract, unread, passes.offset, Nat.add_sub_cancel_left, List.take_left]

/-- Bytes with `taken` at this place go on behind it. -/
theorem into_of_extract {bytes taken : Bytes} {place last : Nat} (forward : place ≤ last)
    (there : bytes.extract place last = taken) :
    into bytes place = ⟨place, taken ++ (into bytes last).rest⟩ := by
  have split := List.take_append_drop (last - place) (bytes.drop place)
  rw [List.drop_drop, Nat.add_sub_cancel' forward] at split
  rw [into, ← split, ← there]
  rfl

end Cursor

namespace Reader

/-- Readers that are put together from single reads. What has been read may decide what is read
next, and may be refused for any cause but missing bytes; `asks` says whether they may also ask how
many bytes are left. -/
inductive Composed (asks : Bool) : {α : Type} → Reader α → Prop
  | pure {α : Type} (a : α) : Composed asks (Pure.pure a : Reader α)
  | refuse {α : Type} {e : WireError}
      (other : ∀ place needed left, e ≠ .unexpectedEof place needed left) :
      Composed asks (throw e : Reader α)
  | offset : Composed asks offset
  | remaining (may : asks = true) : Composed asks remaining
  | raw (n : Nat) : Composed asks (raw n)
  | bind {α β : Type} {r : Reader α} {k : α → Reader β} (first : Composed asks r)
      (next : ∀ a, Composed asks (k a)) : Composed asks (r >>= k)

/-- What a reader does to the cursor. If it does not ask how many bytes are left, it gives the same
in front of all bytes that begin with those it has passed. -/
structure Careful (asks : Bool) (r : Reader α) : Prop where
  gives : ∀ {cursor a next}, r cursor = .ok a next → ∃ taken, cursor.Passes taken next ∧
    (asks = false → ∀ rest, r ⟨cursor.offset, taken ++ rest⟩ = .ok a ⟨next.offset, rest⟩)
  fails : ∀ {cursor e next}, r cursor = .error e next → ∃ taken, cursor.Passes taken next ∧
    e.TellsEnd (cursor.offset + cursor.rest.length)

variable {asks : Bool}

-- Some reads have a body of their own, but every byte is taken as one of the next `n`.

theorem u8_eq_raw : u8 = (fun taken => taken.headD 0) <$> raw 1 := by
  funext ⟨offset, rest⟩
  cases rest <;> rfl

theorem fixed_eq_raw (n : Nat) :
    fixed n = (fun taken => (FixedBytes.ofBytes? n taken).getD (.zero n)) <$> raw n := by
  funext cursor
  by_cases full : (cursor.rest.take n).length = n
  · have taken : raw n cursor = .ok (cursor.rest.take n) _ := if_pos full
    rw [map_eq_pure_bind, Stateful.bind_ok taken, FixedBytes.ofBytes?, dif_pos full]
    exact dif_pos full
  · have short : raw n cursor = .error _ cursor := if_neg full
    rw [Stateful.map_error short]
    exact dif_neg full

theorem finish_eq_remaining : finish = (do
    let left ← remaining
    if left = 0 then pure () else throw (.trailingBytes left)) := by
  funext ⟨offset, rest⟩
  cases rest <;> rfl

theorem atEnd_eq_remaining : atEnd = (fun left => left == 0) <$> remaining := by
  funext ⟨offset, rest⟩
  cases rest <;> rfl

namespace Composed

theorem map {r : Reader α} (h : r.Composed asks) (f : α → β) : (f <$> r).Composed asks := by
  rw [map_eq_pure_bind]
  exact h.bind fun a => .pure (f a)

theorem fixed (n : Nat) : (Reader.fixed n).Composed asks := by
  rw [fixed_eq_raw]
  exact (raw n).map _

theorem u8 : Reader.u8.Composed asks := by
  rw [u8_eq_raw]
  exact (raw 1).map _

theorem number (width : Nat) : (Reader.number width).Composed asks := (raw width).map _

theorem u16 : Reader.u16.Composed asks := (number 2).map _

theorem u32 : Reader.u32.Composed asks := (number 4).map _

theorem u64 : Reader.u64.Composed asks := (number 8).map _

theorem u128 : Reader.u128.Composed asks := (number 16).map _

theorem u256 : Reader.u256.Composed asks := (number 32).map _

theorem bool : Reader.bool.Composed asks := by
  refine offset.bind fun start => u8.bind fun b => ?_
  split_ifs
  · exact .pure false
  · exact .pure true
  · exact .refuse nofun

theorem uleb128From (start left : Nat) : ∀ value shift,
    (Reader.uleb128From start value shift left).Composed asks := by
  -- on the groups that may still come; it does not matter what has been read so far
  induction left with
  | zero => exact fun _ _ => .refuse nofun
  | succ left ih =>
    intro value shift
    refine u8.bind fun b => ?_
    dsimp only
    split_ifs
    · exact .refuse nofun
    · exact .pure _
    · exact .refuse nofun
    · exact ih _ _

theorem uleb128 : Reader.uleb128.Composed asks := offset.bind fun start => uleb128From start 5 0 0

theorem length : Reader.length.Composed asks := uleb128.map _

theorem bytes : Reader.bytes.Composed asks := length.bind raw

theorem string : Reader.string.Composed asks := by
  refine offset.bind fun start => bytes.bind fun read => ?_
  cases Text.Utf8.decode read with
  | ok s => exact .pure s
  | error fault => exact .refuse nofun

theorem items {item : Reader α} (h : item.Composed asks) (n : Nat) : ∀ acc,
    (Reader.items item acc n).Composed asks := by
  induction n with
  | zero => exact fun acc => .pure acc.reverse
  | succ n ih => exact fun acc => h.bind fun a => ih (a :: acc)

theorem vector {item : Reader α} (h : item.Composed asks) : (Reader.vector item).Composed asks :=
  length.bind fun n => h.items n []

theorem option {item : Reader α} (h : item.Composed asks) : (Reader.option item).Composed asks := by
  refine offset.bind fun start => u8.bind fun b => ?_
  split_ifs
  · exact .pure none
  · exact h.map some
  · exact .refuse nofun

theorem tag (width : TagWidth) : (Reader.tag width).Composed asks := by
  cases width with
  | one => exact u8.map _
  | four => exact u32.map _

theorem finish : Reader.finish.Composed true := by
  rw [finish_eq_remaining]
  refine (remaining rfl).bind fun left => ?_
  split_ifs
  · exact .pure ()
  · exact .refuse nofun

theorem atEnd : Reader.atEnd.Composed true := by
  rw [atEnd_eq_remaining]
  exact (remaining rfl).map _

end Composed

namespace Careful

theorem pure (a : α) : (Pure.pure a : Reader α).Careful asks where
  gives read := by
    cases read
    exact ⟨[], .refl _, fun _ _ => rfl⟩
  fails := nofun

theorem refuse {e : WireError} (other : ∀ place needed left, e ≠ .unexpectedEof place needed left) :
    (throw e : Reader α).Careful asks where
  gives := nofun
  fails read := by
    cases read
    exact ⟨[], .refl _, fun place needed left same => absurd same (other place needed left)⟩

theorem offset : Reader.offset.Careful asks where
  gives read := by
    cases read
    exact ⟨[], .refl _, fun _ _ => rfl⟩
  fails := nofun

theorem remaining (may : asks = true) : Reader.remaining.Careful asks where
  gives read := by
    cases read
    exact ⟨[], .refl _, fun never => absurd (may.symm.trans never) (by decide)⟩
  fails := nofun

theorem raw (n : Nat) : (Reader.raw n).Careful asks where
  gives {cursor taken next} read := by
    simp only [Reader.raw] at read
    split at read
    · next full =>
      cases read
      have whole := (raw_takes cursor.offset (cursor.rest.take n)).whole
      rw [full] at whole
      exact ⟨_, ⟨(List.take_append_drop n _).symm, by rw [full]⟩, fun _ => whole⟩
    · cases read
  fails {cursor e next} read := by
    simp only [Reader.raw] at read
    split at read
    · cases read
    · next short =>
      cases read
      refine ⟨[], .refl _, ?_⟩
      rintro place needed left ⟨⟩
      rw [List.length_take] at short
      exact ⟨rfl, by omega⟩

/-- The second reader starts at the cursor that the first one leaves, and with it goes past the
bytes of both. -/
theorem bind {r : Reader α} {k : α → Reader β} (first : r.Careful asks)
    (second : ∀ a, (k a).Careful asks) : (r >>= k).Careful asks where
  gives {cursor b last} read := by
    obtain ⟨a, middle, ran, then_ran⟩ := Stateful.bind_eq_ok read
    obtain ⟨front, passes, same⟩ := first.gives ran
    obtain ⟨back, passes', same'⟩ := (second a).gives then_ran
    refine ⟨front ++ back, passes.trans passes', fun blind rest => ?_⟩
    rw [List.append_assoc, Stateful.bind_ok (same blind (back ++ rest))]
    exact same' blind rest
  fails {cursor e last} read := by
    cases ran : r cursor with
    | ok a middle =>
      rw [Stateful.bind_ok ran] at read
      obtain ⟨front, passes, -⟩ := first.gives ran
      obtain ⟨back, passes', tells⟩ := (second a).fails read
      rw [passes.reach] at tells
      exact ⟨front ++ back, passes.trans passes', tells⟩
    | error e' middle =>
      rw [Stateful.bind_error ran] at read
      cases read
      exact first.fails ran

end Careful

theorem Composed.careful {r : Reader α} (h : r.Composed asks) : r.Careful asks := by
  induction h with
  | pure a => exact .pure a
  | refuse other => exact .refuse other
  | offset => exact .offset
  | remaining may => exact .remaining may
  | raw n => exact .raw n
  | bind _ _ first second => exact first.bind second

/-- What a reader gives at a cursor, and where it leaves the cursor, also when it fails. -/
def outcome (r : Reader α) (cursor : Cursor) : Fallible α × Cursor :=
  match r cursor with
  | .ok a next => (.ok a, next)
  | .error e next => (.error e, next)

/-- What a read does at a cursor in these bytes. -/
structure SafeIn (r : Reader α) (asks : Bool) (bytes : Bytes) (cursor : Cursor) : Prop where
  starts : cursor.StandsIn bytes
  ends : (r.outcome cursor).2.StandsIn bytes
  forward : cursor.offset ≤ (r.outcome cursor).2.offset
  missing : ∀ e, (r.outcome cursor).1 = .error e → e.TellsEnd bytes.length
  depends : asks = false → ∀ a next, r.outcome cursor = (.ok a, next) →
    ∀ other : Bytes, next.offset ≤ other.length →
      other.extract cursor.offset next.offset = bytes.extract cursor.offset next.offset →
        r.outcome (.into other cursor.offset) = (.ok a, .into other next.offset)

/-- A read that fails takes nothing. -/
def StaysOnError (r : Reader α) : Prop := ∀ cursor e next, r cursor = .error e next → next = cursor

theorem outcome_of_ok {r : Reader α} {cursor next : Cursor} {a : α} (h : r cursor = .ok a next) :
    r.outcome cursor = (.ok a, next) := by
  rw [outcome, h]

theorem outcome_of_error {r : Reader α} {cursor next : Cursor} {e : WireError}
    (h : r cursor = .error e next) : r.outcome cursor = (.error e, next) := by
  rw [outcome, h]

theorem outcome_eq_ok {r : Reader α} {cursor next : Cursor} {a : α}
    (h : r.outcome cursor = (.ok a, next)) : r cursor = .ok a next := by
  cases ran : r cursor with
  | ok b last =>
    rw [outcome_of_ok ran] at h
    cases h
    rfl
  | error e last =>
    rw [outcome_of_error ran] at h
    cases h

theorem Careful.passes {r : Reader α} (h : r.Careful asks) (cursor : Cursor) :
    ∃ taken, cursor.Passes taken (r.outcome cursor).2 := by
  cases ran : r cursor with
  | ok a next =>
    obtain ⟨taken, passes, -⟩ := h.gives ran
    exact ⟨taken, by rwa [outcome_of_ok ran]⟩
  | error e next =>
    obtain ⟨taken, passes, -⟩ := h.fails ran
    exact ⟨taken, by rwa [outcome_of_error ran]⟩

theorem Careful.safeIn {r : Reader α} (h : r.Careful asks) {bytes : Bytes} {cursor : Cursor}
    (stands : cursor.StandsIn bytes) : r.SafeIn asks bytes cursor where
  starts := stands
  ends := by
    obtain ⟨taken, passes⟩ := h.passes cursor
    exact stands.passes passes
  forward := by
    obtain ⟨taken, passes⟩ := h.passes cursor
    rw [passes.offset]
    exact Nat.le_add_right _ _
  missing e failed := by
    cases ran : r cursor with
    | ok a next =>
      rw [outcome_of_ok ran] at failed
      cases failed
    | error e' next =>
      rw [outcome_of_error ran] at failed
      cases failed
      obtain ⟨taken, -, tells⟩ := h.fails ran
      rwa [stands.reach] at tells
  depends blind a next ran other inside agree := by
    obtain ⟨taken, passes, same⟩ := h.gives (outcome_eq_ok ran)
    have forward : cursor.offset ≤ next.offset := passes.offset ▸ Nat.le_add_right _ _
    -- so the other bytes go on with `taken` at the same place, and then with a rest of their own
    rw [stands.extract passes] at agree
    rw [Cursor.into_of_extract forward agree]
    exact outcome_of_ok (same blind _)

/-- The next `n` bytes of a byte string are given exactly when there are so many behind the cursor,
and they are those between its place and the place `n` further on. -/
theorem raw_of_standsIn {cursor : Cursor} {bytes : Bytes} (h : cursor.StandsIn bytes) (n : Nat) :
    raw n cursor =
      if cursor.offset + n ≤ bytes.length then
        .ok (bytes.extract cursor.offset (cursor.offset + n)) (.into bytes (cursor.offset + n))
      else .error (.unexpectedEof cursor.offset n (bytes.length - cursor.offset)) cursor := by
  have inside := h.inside
  have size : (cursor.rest.take n).length = min n (bytes.length - cursor.offset) := by
    rw [h.unread, List.length_take, List.length_drop]
  by_cases room : cursor.offset + n ≤ bytes.length
  · have full : (cursor.rest.take n).length = n := by omega
    rw [raw, if_pos full, if_pos room, h.unread, List.drop_drop, List.extract,
      Nat.add_sub_cancel_left]
    rfl
  · have short : ¬(cursor.rest.take n).length = n := by omega
    rw [raw, if_neg short, if_neg room, h.unread, List.length_drop]

theorem raw_staysOnError (n : Nat) : (raw n).StaysOnError := by
  intro cursor e next read
  simp only [raw] at read
  split at read
  · cases read
  · cases read
    rfl

theorem StaysOnError.map {r : Reader α} (h : r.StaysOnError) (f : α → β) :
    (f <$> r).StaysOnError := by
  intro cursor e next read
  cases ran : r cursor with
  | ok a middle =>
    rw [map_eq_pure_bind, Stateful.bind_ok ran] at read
    cases read
  | error e' middle =>
    rw [Stateful.map_error ran] at read
    cases read
    exact h cursor e next ran

theorem u8_staysOnError : u8.StaysOnError := by
  rw [u8_eq_raw]
  exact (raw_staysOnError 1).map _

theorem fixed_staysOnError (n : Nat) : (fixed n).StaysOnError := by
  rw [fixed_eq_raw]
  exact (raw_staysOnError n).map _

theorem number_staysOnError (width : Nat) : (number width).StaysOnError :=
  (raw_staysOnError width).map _

end Reader

/-- May the step ask how many bytes are left? -/
def ReadStep.asks : ReadStep → Bool
  | .finish | .remaining | .atEnd => true
  | _ => false

theorem ReadStep.composed (step : ReadStep) : step.reader.Composed step.asks := by
  cases step with
  | bool => exact Reader.Composed.bool.map _
  | u8 => exact Reader.Composed.u8.map _
  | u16 => exact Reader.Composed.u16.map _
  | u32 => exact Reader.Composed.u32.map _
  | u64 => exact Reader.Composed.u64.map _
  | u128 => exact Reader.Composed.u128.map _
  | u256 => exact Reader.Composed.u256.map _
  | uleb128 => exact Reader.Composed.uleb128.map _
  | length => exact Reader.Composed.length.map _
  | bytes => exact Reader.Composed.bytes.map _
  | string => exact Reader.Composed.string.map _
  | raw n => exact (Reader.Composed.raw n).map _
  | fixed n => exact (Reader.Composed.fixed n).map _
  | tag width => exact (Reader.Composed.tag width).map _
  | numbers => exact Reader.Composed.u16.vector.map _
  | flags => exact Reader.Composed.bool.vector.map _
  | texts => exact Reader.Composed.string.vector.map _
  | optional => exact Reader.Composed.u8.option.map _
  | union width size =>
    exact (Reader.Composed.tag width).bind fun n => (Reader.Composed.raw size).map _
  | finish => exact Reader.Composed.finish.map _
  | remaining => exact (Reader.Composed.remaining rfl).map _
  | atEnd => exact Reader.Composed.atEnd.map _

theorem ReadStep.run_cons (step : ReadStep) (rest : List ReadStep) (cursor : Cursor) :
    run cursor (step :: rest) =
      step.reader.outcome cursor :: run (step.reader.outcome cursor).2 rest := by
  cases ran : step.reader cursor with
  | ok item next => rw [run, ran, Reader.outcome_of_ok ran]
  | error e next => rw [run, ran, Reader.outcome_of_error ran]

/-- A read of any type. -/
structure AnyRead where
  {Value : Type}
  asks : Bool
  reader : Reader Value
  composed : reader.Composed asks

namespace AnyRead

def ofStep (step : ReadStep) : AnyRead := ⟨step.asks, step.reader, step.composed⟩

/-- The cursor after reads one behind the other; a read that fails stops none of them. -/
def after (cursor : Cursor) : List AnyRead → Cursor
  | [] => cursor
  | read :: rest => after (read.reader.outcome cursor).2 rest

theorem standsIn_after {bytes : Bytes} (reads : List AnyRead) : ∀ {cursor : Cursor},
    cursor.StandsIn bytes → (after cursor reads).StandsIn bytes := by
  induction reads with
  | nil => exact id
  | cons read rest ih =>
    intro cursor stands
    exact ih (read.composed.careful.safeIn stands).ends

/-- The step behind others in a script starts at the cursor that these leave. -/
theorem run_append_single (step : ReadStep) (before : List ReadStep) : ∀ cursor,
    ReadStep.run cursor (before ++ [step]) =
      ReadStep.run cursor before ++ [step.reader.outcome (after cursor (before.map ofStep))] := by
  induction before with
  | nil => exact step.run_cons []
  | cons first rest ih =>
    intro cursor
    rw [List.cons_append, first.run_cons, first.run_cons, ih]
    rfl

/-- Wherever reads have left the cursor, whether they have failed or not, it stands in the bytes;
the next read goes forward in them, tells truly where they end if some are missing, and if it
succeeds depends on the bytes that it passes and no others. Numbers of one width and counts of bytes
are taken as a whole or not at all. The last part is about the reads of a script as it runs. -/
theorem cursor_safe_under_any_use (bytes : Bytes) :
    (∀ before (read : AnyRead),
      read.reader.SafeIn read.asks bytes (after (.start bytes) before)) ∧
    (∀ before n, let cursor := after (.start bytes) before
      Reader.raw n cursor =
        if cursor.offset + n ≤ bytes.length then
          .ok (bytes.extract cursor.offset (cursor.offset + n)) (.into bytes (cursor.offset + n))
        else .error (.unexpectedEof cursor.offset n (bytes.length - cursor.offset)) cursor) ∧
    ((∀ n, (Reader.raw n).StaysOnError) ∧ (∀ n, (Reader.fixed n).StaysOnError) ∧
      Reader.u8.StaysOnError ∧ Reader.u16.StaysOnError ∧ Reader.u32.StaysOnError ∧
      Reader.u64.StaysOnError ∧ Reader.u128.StaysOnError ∧ Reader.u256.StaysOnError) ∧
    ∀ before step, ReadStep.run (.start bytes) (before ++ [step]) =
      ReadStep.run (.start bytes) before ++
        [step.reader.outcome (after (.start bytes) (before.map ofStep))] := by
  have stands (before : List AnyRead) : (after (.start bytes) before).StandsIn bytes :=
    standsIn_after before (Cursor.standsIn_start bytes)
  refine ⟨fun before read => ?_, fun before n => ?_, ⟨?_, ?_, ?_, ?_, ?_, ?_, ?_, ?_⟩, ?_⟩
  · exact read.composed.careful.safeIn (stands before)
  · exact Reader.raw_of_standsIn (stands before) n
  · exact Reader.raw_staysOnError
  · exact Reader.fixed_staysOnError
  · exact Reader.u8_staysOnError
  · exact (Reader.number_staysOnError 2).map _
  · exact (Reader.number_staysOnError 4).map _
  · exact (Reader.number_staysOnError 8).map _
  · exact (Reader.number_staysOnError 16).map _
  · exact (Reader.number_staysOnError 32).map _
  · exact fun before step => run_append_single step before _

/-- A byte that is no flag in the middle of a vector, a vector of options, an empty text, and a
count that is cut short. -/
def broken : Bytes := [3, 1, 7, 2, 0, 1, 1, 9, 0, 0x80]

def brokenReads : List AnyRead :=
  [.ofStep .flags, ⟨false, .vector (.option .u16), .vector (.option .u16)⟩, .ofStep .string]

theorem broken_bytes_are_read_safely :
    (after (.start broken) brokenReads = ⟨9, [0x80]⟩ ∧
      (Reader.length.outcome ⟨9, [0x80]⟩).1 = .error (.unexpectedEof 10 1 0) ∧
      10 + 0 = broken.length ∧ 0 < 1) ∧
    let other : Bytes := [9, 9, 9, 2, 0, 1, 1, 9]
    after (.start broken) [.ofStep .flags] = .into broken 3 ∧
      (Reader.vector (.option .u16)).outcome (.into broken 3) =
        (.ok [none, some 2305], .into broken 8) ∧
      (Reader.vector (.option .u16)).outcome (.into other 3) =
        (.ok [none, some 2305], .into other 8) := by
  have place : after (.start broken) brokenReads = ⟨9, [0x80]⟩ := by rfl
  have missing : (Reader.length.outcome ⟨9, [0x80]⟩).1 = .error (.unexpectedEof 10 1 0) := by rfl
  have start : after (.start broken) [.ofStep .flags] = .into broken 3 := by rfl
  have given : (Reader.vector (.option .u16)).outcome (.into broken 3) =
      (.ok [none, some 2305], .into broken 8) := by rfl
  obtain ⟨safe, -⟩ := cursor_safe_under_any_use broken
  have last := safe brokenReads ⟨false, .length, .length⟩
  have numbers := safe [.ofStep .flags] ⟨false, .vector (.option .u16), .vector (.option .u16)⟩
  rw [place] at last
  rw [start] at numbers
  exact ⟨⟨place, missing, last.missing _ missing 10 1 0 rfl⟩, start, given,
    numbers.depends rfl _ _ given _ (by decide) (by decide)⟩

end AnyRead

end MoveWire
