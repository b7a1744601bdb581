import MoveWire.Json.Parser
import MoveWire.Proofs.Fallible

/-!
Integers in JSON text. A number is read as an integer only where a word of 64 bits, signed or
unsigned, holds it; so all integers of a value that was read, however deep they stand, are such
words.
-/

namespace MoveWire.Json

/-- The integer stands somewhere in the value. -/
inductive Holds : Json → Int → Prop where
  | integer (n : Int) : Holds (.integer n) n
  | item {items : List Json} {json : Json} {n : Int} (member : json ∈ items)
      (inside : Holds json n) : Holds (.array items) n
  | field {fields : List (String × Json)} {name : String} {json : Json} {n : Int}
      (member : (name, json) ∈ fields) (inside : Holds json n) : Holds (.object fields) n

/-- All integers in the value are signed or unsigned words. -/
def InWords (json : Json) : Prop := ∀ n, json.Holds n → -2 ^ 63 ≤ n ∧ n < 2 ^ 64

/-- If a step gives a value, its integers are words. -/
def GivesWords (step : Step Json) : Prop := ∀ json rest, step = .ok (json, rest) → json.InWords

theorem inWords_array {items : List Json} (h : ∀ json ∈ items, json.InWords) :
    InWords (.array items) := by
  rintro n (_ | ⟨member, inside⟩)
  exact h _ member n inside

theorem inWords_object {fields : List (String × Json)} (h : ∀ field ∈ fields, field.2.InWords) :
    InWords (.object fields) := by
  rintro n (_ | _ | ⟨member, inside⟩)
  exact h _ member n inside

/-- A field is put at its place, and the others stay. -/
theorem mem_insertField {name : String} {value : Json} {fields : List (String × Json)}
    {field : String × Json} (h : field ∈ insertField name value fields) :
    field = (name, value) ∨ field ∈ fields := by
  induction fields with
  | nil => exact .inl (List.mem_singleton.mp h)
  | cons first rest ih =>
    rw [insertField] at h
    split at h
    · rcases List.mem_cons.mp h with same | later
      · exact .inl same
      · exact .inr (List.mem_cons_of_mem _ later)
    · split at h
      · exact List.mem_cons.mp h
      · rcases List.mem_cons.mp h with same | later
        · exact .inr (List.mem_cons.mpr (.inl same))
        · exact (ih later).imp_right (List.mem_cons_of_mem _)

theorem inWords_record {fields : List (String × Json)} (h : ∀ field ∈ fields, field.2.InWords) :
    InWords (record fields) := by
  apply inWords_object
  let kept (sorted : List (String × Json)) : Prop := ∀ field ∈ sorted, field.2.InWords
  refine List.foldlRecOn (motive := kept) fields _ (List.forall_mem_nil _) ?_
  intro sorted known first there field member
  rcases mem_insertField member with rfl | later
  · exact h first there
  · exact known field later

namespace GivesWords

theorem fail (reason : Reason) (unread : List UInt8) : GivesWords (fail reason unread) := by
  rintro json rest ⟨⟩

theorem error (fault : Fault) : GivesWords (.error fault) := by
  rintro json rest ⟨⟩

theorem ok {json : Json} (h : json.InWords) (unread : List UInt8) :
    GivesWords (.ok (json, unread)) := by
  rintro _ _ ⟨⟩
  exact h

theorem real (x : Binary64) (unread : List UInt8) : GivesWords (.ok (.real x, unread)) := by
  refine ok ?_ unread
  rintro n ⟨⟩

theorem keyword {value : Json} (h : value.InWords) (letters cs : List UInt8) :
    GivesWords (keyword value letters cs) := by
  induction letters generalizing cs with
  | nil => exact ok h cs
  | cons letter letters ih =>
    cases cs with
    | nil => exact fail _ _
    | cons c cs =>
      rw [Json.keyword]
      split
      · exact ih cs
      · exact fail _ _

theorem realNumber (negative : Bool) (significand : Nat) (exponent : Int) (cs : List UInt8) :
    GivesWords (realNumber negative significand exponent cs) := by
  unfold Json.realNumber
  split
  · exact real _ cs
  · exact fail _ cs

theorem exponentPart (negative : Bool) (significand : Nat) (start : Int) (cs : List UInt8) :
    GivesWords (exponentPart negative significand start cs) := by
  unfold Json.exponentPart
  split
  dsimp only
  split
  · exact fail _ _
  · split
    · exact fail _ _
    · split
      · split
        · exact fail _ _
        · exact real _ _
      · exact realNumber _ _ _ _

theorem finishReal (negative : Bool) (significand : Nat) (exponent : Int) (cs : List UInt8) :
    GivesWords (finishReal negative significand exponent cs) := by
  unfold Json.finishReal
  split
  · exact exponentPart _ _ _ _
  · exact exponentPart _ _ _ _
  · exact realNumber _ _ _ _

theorem fractionPart (negative : Bool) (significand : Nat) (exponent : Int) (cs : List UInt8) :
    GivesWords (fractionPart negative significand exponent cs) := by
  unfold Json.fractionPart
  split
  · exact fail _ _
  · split
    · exact fail _ _
    · exact finishReal _ _ _ _

/-- Only a number without fraction and exponent can be an integer. -/
theorem afterWhole {significand : Nat} (word : significand ≤ maxWord) (negative : Bool)
    (dropped : Nat) (cs : List UInt8) :
    GivesWords (afterWhole negative significand dropped cs) := by
  unfold maxWord at word
  unfold Json.afterWhole
  split
  · exact fractionPart _ _ _ _
  · exact finishReal _ _ _ _
  · exact finishReal _ _ _ _
  · split
    · exact realNumber _ _ _ _
    · split
      · refine ok ?_ cs
        rintro _ ⟨⟩
        omega
      · split
        · exact realNumber _ _ _ _
        · next small =>
          refine ok ?_ cs
          rintro _ ⟨⟩
          simp at small
          omega

/-- A significand that is a word stays one. -/
theorem takeDigits_le {significand : Nat} (word : significand ≤ maxWord) (count : Nat)
    (cs : List UInt8) : (takeDigits significand count cs).1 ≤ maxWord := by
  induction cs generalizing significand count with
  | nil => exact word
  | cons c cs ih =>
    rw [takeDigits]
    split
    · next room =>
      rw [Bool.and_eq_true, decide_eq_true_iff] at room
      exact ih room.2 _
    · exact word

theorem number (negative : Bool) (cs : List UInt8) : GivesWords (number negative cs) := by
  unfold Json.number
  split
  · exact fail _ _
  · split
    · split
      · exact fail _ _
      · exact afterWhole (Nat.zero_le _) _ _ _
    · exact afterWhole (Nat.zero_le _) _ _ _
  · next c rest _ =>
    split
    · exact fail _ _
    · have word := takeDigits_le (Nat.zero_le maxWord) 0 (c :: rest)
      split
      next taken =>
      rw [taken] at word
      exact afterWhole word _ _ _

variable {value : List UInt8 → Step Json} (each : ∀ cs, GivesWords (value cs))
include each

theorem arrayItems {acc : List Json} (known : ∀ json ∈ acc, json.InWords) (cs : List UInt8)
    (rounds : Nat) : GivesWords (arrayItems value acc cs rounds) := by
  induction rounds generalizing acc cs with
  | zero => exact fail _ _
  | succ rounds ih =>
    rw [Json.arrayItems]
    split
    · exact error _
    · next item rest read =>
      have all : ∀ json ∈ item :: acc, json.InWords :=
        List.forall_mem_cons.mpr ⟨each cs item rest read, known⟩
      split
      · exact fail _ _
      · exact ok (inWords_array fun json member => all json (List.mem_reverse.mp member)) _
      · split
        · exact fail _ _
        · exact ih all _
      · exact fail _ _

theorem objectFields {acc : List (String × Json)} (known : ∀ field ∈ acc, field.2.InWords)
    (cs : List UInt8) (rounds : Nat) : GivesWords (objectFields value acc cs rounds) := by
  induction rounds generalizing acc cs with
  | zero => exact fail _ _
  | succ rounds ih =>
    unfold Json.objectFields
    split
    · exact fail _ _
    · split
      · exact error _
      · next name rest _ =>
        split
        · exact fail _ _
        · split
          · exact error _
          · next item rest read =>
            have all : ∀ field ∈ (name, item) :: acc, field.2.InWords :=
              List.forall_mem_cons.mpr ⟨each _ item rest read, known⟩
            split
            · exact fail _ _
            · exact ok (inWords_record fun field member => all field (List.mem_reverse.mp member)) _
            · split
              · exact fail _ _
              · exact ih all _
            · exact fail _ _
        · exact fail _ _
    · exact fail _ _

end GivesWords

/-- Arrays and objects may hold only what is read one level deeper. -/
theorem value_of_deeper {depth : Nat} (deeper : ∀ d, depth = d + 1 → ∀ cs, GivesWords (value d cs))
    (cs : List UInt8) : GivesWords (value depth cs) := by
  unfold value
  split
  · exact .fail _ _
  · exact .keyword (by rintro n ⟨⟩) _ _
  · exact .keyword (by rintro n ⟨⟩) _ _
  · exact .keyword (by rintro n ⟨⟩) _ _
  · exact .number _ _
  · next rest _ =>
    cases stringAfterQuote rest with
    | ok read =>
      refine .ok ?_ _
      rintro n ⟨⟩
    | error fault => exact .error fault
  · split
    · exact .fail _ _
    · next d =>
      split
      · exact .ok (inWords_array (List.forall_mem_nil _)) _
      · exact .fail _ _
      · exact .arrayItems (deeper d rfl) (List.forall_mem_nil _) _ _
  · split
    · exact .fail _ _
    · next d =>
      split
      · exact .ok (inWords_record (List.forall_mem_nil _)) _
      · exact .fail _ _
      · exact .objectFields (deeper d rfl) (List.forall_mem_nil _) _ _
  · split
    · exact .number _ _
    · exact .fail _ _

theorem value_givesWords (depth : Nat) (cs : List UInt8) : GivesWords (value depth cs) := by
  induction depth generalizing cs with
  | zero =>
    refine value_of_deeper ?_ cs
    rintro _ ⟨⟩
  | succ depth ih =>
    refine value_of_deeper ?_ cs
    rintro _ ⟨⟩
    exact ih

/-- The integers in a text are signed or unsigned words; a number beyond them is no integer. -/
theorem inWords_of_parse {text : String} {json : Json} (h : parse text = .ok json) :
    json.InWords := by
  obtain ⟨⟨given, rest⟩, read, done⟩ := Fallible.bind_eq_ok.mp h
  have words := value_givesWords maxDepth _ given rest read
  dsimp only at done
  split at done
  · cases done
    exact words
  · cases done

end MoveWire.Json
