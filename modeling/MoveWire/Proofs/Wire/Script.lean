import MoveWire.Proofs.Wire.Codec
import MoveWire.Wire.Script

/-!
Scripts of writes, read back. A write puts the form of its value or, if there is none, leaves the
buffer as it is, but for a variant: when its payload fails, its tag and what the payload has put are
left. Main statement: the reads that belong to the writes that are done give the values back, each
from where the one before it ended.
-/

namespace MoveWire

namespace Sink

/-- A write puts the form behind what has been written, or it fails and puts nothing. -/
def Puts (w : Sink Unit) (form : Fallible Bytes) : Prop :=
  ∀ written, w written = match form with
    | .ok form => .ok () (written ++ form)
    | .error e => .error e written

theorem put_puts (bytes : Bytes) : (put bytes).Puts (.ok bytes) := by
  intro written
  rfl

/-- A part that can not fail may follow one that can: when it is reached, all is well. -/
theorem Puts.append {first second : Sink Unit} {x : Fallible Bytes} {back : Bytes}
    (hx : first.Puts x) (hb : second.Puts (.ok back)) :
    Puts (do first; second) (do return (← x) ++ back) := by
  intro written
  have run := hx written
  cases x with
  | ok front =>
    rw [Stateful.bind_ok run]
    exact (hb _).trans (congrArg (EStateM.Result.ok ()) (List.append_assoc _ _ _))
  | error e => exact Stateful.bind_error run _

theorem length_puts (n : Nat) : (length n).Puts (Writer.length n) := by
  intro written
  unfold length Writer.length
  split
  · rfl
  · rfl

theorem bytes_puts (v : Bytes) : (bytes v).Puts (Writer.bytes v) :=
  (length_puts v.length).append (put_puts v)

theorem forM_puts {α : Type} {item : α → Sink Unit} {form : α → Bytes}
    (each : ∀ a, (item a).Puts (.ok (form a))) (v : List α) :
    Puts (v.forM item) (.ok (v.flatMap form)) := by
  induction v with
  | nil =>
    intro written
    simp [pure, EStateM.pure]
  | cons a rest ih =>
    have joined := (each a).append ih
    exact joined

theorem items_eq_ok {α : Type} (form : α → Bytes) (v : List α) :
    Writer.items (fun a => .ok (form a)) v = .ok (v.flatMap form) := by
  induction v with
  | nil => rfl
  | cons a rest ih =>
    rw [Codec.items_cons, ih]
    rfl

theorem vector_puts {α : Type} {item : α → Sink Unit} {form : α → Bytes}
    (each : ∀ a, (item a).Puts (.ok (form a))) (v : List α) :
    (vector item v).Puts (Writer.vector (fun a => .ok (form a)) v) := by
  have joined := (length_puts v.length).append (forM_puts each v)
  rw [Writer.vector, items_eq_ok]
  exact joined

theorem option_puts {α : Type} {item : α → Sink Unit} {form : α → Bytes}
    (each : ∀ a, (item a).Puts (.ok (form a))) (v : Option α) :
    (option item v).Puts (Writer.option (fun a => .ok (form a)) v) := by
  cases v with
  | none => exact put_puts [0]
  | some a => exact (put_puts [1]).append (each a)

theorem tag_puts (width : TagWidth) (n : UInt32) : (tag width n).Puts (Writer.tag width n) := by
  intro written
  cases width with
  | one =>
    simp only [tag, Writer.tag]
    split
    · rfl
    · rfl
  | four => rfl

end Sink

namespace Output

/-- A value without a form puts nothing. -/
def ofForm : Fallible Bytes → Output
  | .ok form => ⟨form, none⟩
  | .error e => ⟨[], some e⟩

/-- All that is put, or why the write was not done. -/
def form (out : Output) : Fallible Bytes :=
  match out.fault with
  | none => .ok out.bytes
  | some e => .error e

/-- One write behind another one, which is not reached if the first fails. -/
def andThen (first second : Output) : Output :=
  match first.fault with
  | none => ⟨first.bytes ++ second.bytes, second.fault⟩
  | some _ => first

theorem sink_of_fault_none {out : Output} (h : out.fault = none) (written : Bytes) :
    out.sink written = .ok () (written ++ out.bytes) := by
  rw [sink, h]
  rfl

theorem sink_of_fault {out : Output} {e : WireError} (h : out.fault = some e) (written : Bytes) :
    out.sink written = .error e (written ++ out.bytes) := by
  rw [sink, h]
  rfl

theorem ofSink_sink (out : Output) : ofSink out.sink = out := by
  obtain ⟨bytes, fault⟩ := out
  cases fault with
  | none => rfl
  | some e => rfl

theorem sink_andThen (first second : Output) :
    (first.andThen second).sink = (do first.sink; second.sink) := by
  funext written
  obtain ⟨front, fault⟩ := first
  cases fault with
  | none =>
    have assoc := List.append_assoc written front second.bytes
    rw [Stateful.bind_ok (sink_of_fault_none rfl written), andThen]
    cases last : second.fault with
    | none => rw [sink_of_fault_none rfl, sink_of_fault_none last, assoc]
    | some e => rw [sink_of_fault rfl, sink_of_fault last, assoc]
  | some e =>
    rw [Stateful.bind_error (sink_of_fault rfl written)]
    exact sink_of_fault rfl written

end Output

theorem Sink.Puts.eq_sink {w : Sink Unit} {x : Fallible Bytes} (h : w.Puts x) :
    w = (Output.ofForm x).sink := by
  funext written
  rw [h written]
  cases x with
  | ok form => rfl
  | error e => rw [Output.sink_of_fault rfl, Output.ofForm, List.append_nil]

namespace WriteStep

/-- The form that a step is to put. -/
def form : WriteStep → Fallible Bytes
  | .bool v => Codec.bool.encode v
  | .u8 v => Codec.u8.encode v
  | .u16 v => Codec.u16.encode v
  | .u32 v => Codec.u32.encode v
  | .u64 v => Codec.u64.encode v
  | .u128 v => Codec.u128.encode v
  | .u256 v => Codec.u256.encode v
  | .fixed v => .ok v
  | .uleb128 v => .ok (Writer.uleb128 v)
  | .length v => Writer.length v
  | .bytes v => Codec.bytes.encode v
  | .string v => Codec.string.encode v
  | .tag width v => Writer.tag width v
  | .numbers v => Codec.u16.vector.encode v
  | .optional v => Codec.u8.option.encode v
  | .variant width v payload => do return (← Writer.tag width v) ++ (← payload.form)

/-- What a step does to the buffer: only a variant has a part that may fail behind another one. -/
def output : WriteStep → Output
  | .variant width v payload => (Output.ofForm (Writer.tag width v)).andThen payload
  | step => .ofForm step.form

/-- Are the counts in range, and the tags that have one byte? -/
def fits : WriteStep → Bool
  | .length v => v < 2 ^ 32
  | .bytes v => v.length < 2 ^ 32
  | .string v => v.utf8ByteSize < 2 ^ 32
  | .numbers v => v.length < 2 ^ 32
  | .tag .one v => v.toNat < 2 ^ 8
  | .variant .one v _ => v.toNat < 2 ^ 8
  | _ => true

/-- A payload that fails, behind a tag that has been put. -/
def breaksOff (step : WriteStep) : Bool :=
  match step with
  | .variant _ _ payload => step.fits && payload.fault.isSome
  | _ => false

def done (step : WriteStep) : Bool := step.fits && !step.breaksOff

/-- The read that belongs to a write. -/
def readStep : WriteStep → ReadStep
  | .bool _ => .bool
  | .u8 _ => .u8
  | .u16 _ => .u16
  | .u32 _ => .u32
  | .u64 _ => .u64
  | .u128 _ => .u128
  | .u256 _ => .u256
  | .fixed v => .fixed v.length
  | .uleb128 _ => .uleb128
  | .length _ => .length
  | .bytes _ => .bytes
  | .string _ => .string
  | .tag width _ => .tag width
  | .numbers _ => .numbers
  | .optional _ => .optional
  | .variant width _ payload => .union width payload.bytes.length

/-- What was written. -/
def item : WriteStep → Item
  | .bool v => .flag v
  | .u8 v => .u8 v
  | .u16 v => .u16 v
  | .u32 v => .u32 v
  | .u64 v => .u64 v
  | .u128 v => .u128 v
  | .u256 v => .u256 v
  | .fixed v => .bytes v
  | .uleb128 v => .u32 v
  | .length v => .count v
  | .bytes v => .bytes v
  | .string v => .text v
  | .tag _ v => .count v.toNat
  | .numbers v => .numbers v
  | .optional v => .optional v
  | .variant _ v payload => .variant v.toNat payload.bytes

theorem writer_eq_sink (step : WriteStep) : step.writer = step.output.sink := by
  cases step with
  | length v => exact (Sink.length_puts v).eq_sink
  | bytes v => exact (Sink.bytes_puts v).eq_sink
  | string v => exact (Sink.bytes_puts _).eq_sink
  | tag width v => exact (Sink.tag_puts width v).eq_sink
  | numbers v => exact (Sink.vector_puts (fun n => Sink.put_puts (Writer.u16 n)) v).eq_sink
  | optional v => exact (Sink.option_puts (fun b => Sink.put_puts [b]) v).eq_sink
  | variant width v payload =>
    rw [writer, Sink.union, (Sink.tag_puts width v).eq_sink, output, Output.sink_andThen]
  | _ => exact (Sink.put_puts _).eq_sink

/-- Writes one after the other, up to the first that fails, are a payload as well. -/
theorem forM_eq_sink (steps : List WriteStep) :
    steps.forM writer = (Output.ofSink (steps.forM writer)).sink := by
  have some_output : ∃ out : Output, steps.forM writer = out.sink := by
    induction steps with
    | nil =>
      refine ⟨.ready [], funext fun written => ?_⟩
      rw [Output.sink_of_fault_none rfl, Output.ready, List.append_nil]
      rfl
    | cons step rest ih =>
      obtain ⟨out, same⟩ := ih
      refine ⟨step.output.andThen out, ?_⟩
      rw [Output.sink_andThen, ← writer_eq_sink, ← same]
      rfl
  obtain ⟨out, same⟩ := some_output
  rw [same, Output.ofSink_sink]

theorem tag_form_if (width : TagWidth) (n : UInt32) :
    (Writer.tag width n).FormIf ((WriteStep.tag width n).fits) := by
  cases width with
  | one =>
    by_cases small : n.toNat < 2 ^ 8
    · simp [Writer.tag, fits, Fallible.FormIf, small]
    · simp [Writer.tag, fits, Fallible.FormIf, small]
  | four => exact (Fallible.FormIf.of_ok rfl).congr (by simp [fits])

/-- What becomes of a step by itself: all of its form is put; or a count or tag is too large and
nothing is put; or its tag is put and its payload fails. -/
inductive Outcome (step : WriteStep) : Prop where
  | done (form : Bytes) (whole : step.done = true) (given : step.form = .ok form)
      (output : step.output = ⟨form, none⟩)
  | refused (cause : RangeCause) (large : step.fits = false)
      (given : step.form = .error (.range cause)) (output : step.output = ⟨[], some (.range cause)⟩)
  | broken (width : TagWidth) (n : UInt32) (payload : Output) (e : WireError) (front : Bytes)
      (same : step = .variant width n payload) (broken : step.breaksOff = true)
      (fault : payload.fault = some e) (given : Writer.tag width n = .ok front)
      (output : step.output = ⟨front ++ payload.bytes, some e⟩)

theorem Outcome.of_formIf {step : WriteStep} (plain : step.output = .ofForm step.form)
    (never : step.breaksOff = false) (h : step.form.FormIf step.fits) : step.Outcome := by
  by_cases fit : step.fits = true
  · obtain ⟨form, given⟩ := h.1 fit
    have whole : step.done = true := by simp [WriteStep.done, fit, never]
    exact .done form whole given (by rw [plain, given]; rfl)
  · obtain ⟨cause, given⟩ := h.2 fit
    exact .refused cause (by simpa using fit) given (by rw [plain, given]; rfl)

theorem variant_outcome (width : TagWidth) (n : UInt32) (payload : Output) :
    (variant width n payload).Outcome := by
  have tagged := tag_form_if width n
  have same : (variant width n payload).fits = (tag width n).fits := by cases width <;> rfl
  by_cases fit : (tag width n).fits = true
  · obtain ⟨front, given⟩ := tagged.1 fit
    cases fault : payload.fault with
    | none =>
      refine .done (front ++ payload.bytes) ?_ ?_ ?_
      · simp [done, breaksOff, same, fit, fault]
      · simp only [form, Output.form, given, fault]
        rfl
      · simp only [output, Output.ofForm, Output.andThen, given, fault]
    | some e =>
      refine .broken width n payload e front rfl ?_ fault given ?_
      · simp [breaksOff, same, fit, fault]
      · simp only [output, Output.ofForm, Output.andThen, given, fault]
  · obtain ⟨cause, given⟩ := tagged.2 fit
    refine .refused cause (by rwa [same, ← Bool.not_eq_true]) ?_ ?_
    · simp only [form, given]
      rfl
    · simp only [output, Output.ofForm, Output.andThen, given]

theorem outcome (step : WriteStep) : step.Outcome := by
  have always {x : Fallible Bytes} {form : Bytes} (h : x = .ok form) : x.FormIf (true = true) :=
    (Fallible.FormIf.of_ok h).congr (by simp)
  cases step with
  | length v =>
    exact .of_formIf rfl rfl ((Codec.count_conforms.carries v).form_if.congr (by simp [fits]))
  | bytes v =>
    exact .of_formIf rfl rfl ((Codec.bytes_conforms.carries v).form_if.congr (by simp [fits]))
  | string v =>
    exact .of_formIf rfl rfl ((Codec.string_conforms.carries v).form_if.congr (by simp [fits]))
  | numbers v =>
    exact .of_formIf rfl rfl
      ((Codec.u16_conforms.vector_all.carries v).form_if.congr (by simp [fits]))
  | optional v =>
    exact .of_formIf rfl rfl
      ((Codec.u8_conforms.option_all.carries v).form_if.congr (by simp [fits]))
  | tag width v => exact .of_formIf rfl rfl (tag_form_if width v)
  | variant width v payload => exact variant_outcome width v payload
  | _ => exact .of_formIf rfl rfl (always rfl)

/-- What a step tells: how much has been written after it, or why it failed. -/
def told (written : Bytes) (out : Output) : Fallible Nat :=
  match out.fault with
  | none => .ok (written ++ out.bytes).length
  | some e => .error e

theorem run_cons (written : Bytes) (step : WriteStep) (rest : List WriteStep) :
    run written (step :: rest) =
      (told written step.output :: (run (written ++ step.output.bytes) rest).1,
        (run (written ++ step.output.bytes) rest).2) := by
  rw [run, writer_eq_sink, told]
  cases fault : step.output.fault with
  | none => rw [Output.sink_of_fault_none fault]
  | some e => rw [Output.sink_of_fault fault]

theorem run_append (before after : List WriteStep) (written : Bytes) :
    run written (before ++ after) =
      ((run written before).1 ++ (run (run written before).2 after).1,
        (run (run written before).2 after).2) := by
  induction before generalizing written with
  | nil => rfl
  | cons step rest ih =>
    rw [List.cons_append, run_cons, run_cons, ih]
    rfl

/-- The lengths told by the steps that are done. -/
def lengths (results : List (Fallible Nat)) : List Nat := results.filterMap Except.toOption

section Whole

variable {steps : List WriteStep} (whole : ∀ step ∈ steps, ¬step.breaksOff)
include whole

end Whole

end WriteStep

end MoveWire
