import WorkerRoster.Journal

/-!
# What a Record Becomes

A record of named values becomes an entry. A value that is recorded under the name of the message
becomes the message, and stays out of the fields; if there are several, it is the last one. All
other values become fields, in the order in which they were recorded, each under its name and in
words.

Truth values are fields whatever their name is. So a record whose message is a truth value becomes
an entry without a message, with a field of that name among the others: the message is kept apart
from the fields just if it is no truth value.

## Main statements

- `Entry.ofRecord_eq`: the message and the fields of any record
- `Entry.ofRecord_message`: what becomes of a record with one message
- `Entry.ofRecord_flag`: a message that is a truth value is not kept apart
-/

set_option autoImplicit false

namespace WorkerRoster

/-- Whether a value is a truth value. -/
def Recorded.isFlag : Recorded → Bool
  | .flag _ => true
  | .text _ | .whole _ | .shown _ => false

/-- No truth value is silent when it is put in words. -/
theorem Recorded.render_ne_empty {v : Recorded} (h : v.isFlag = true) : v.render ≠ "" := by
  cases v with
  | flag b => cases b <;> decide
  | text _ | whole _ | shown _ => cases h

namespace Entry

/-- Whether a recorded value is taken for the message. -/
def isMessage (x : String × Recorded) : Bool :=
  x.1 = messageName && !x.2.isFlag

/-- A recorded value as a field. -/
def field (x : String × Recorded) : String × String :=
  (x.1, x.2.render)

variable {level : Level} {before after : List (String × Recorded)} {v : Recorded}

/-! ## Any record -/

theorem record_eq (e : Entry) (x : String × Recorded) :
    e.record x.1 x.2 =
      if isMessage x then { e with message := x.2.render }
      else { e with fields := e.fields ++ [field x] } := by
  obtain ⟨name, v⟩ := x
  cases v with
  | flag b => simp [record, isMessage, Recorded.isFlag, field]
  | text s | whole s | shown s =>
    by_cases h : name = messageName <;> simp [record, isMessage, Recorded.isFlag, field, h]

/-- What becomes of an entry when values are added to it. -/
theorem foldl_record (e : Entry) (values : List (String × Recorded)) :
    values.foldl (fun e x => e.record x.1 x.2) e =
      { e with
        message := ((values.filter isMessage).getLast?.map (·.2.render)).getD e.message
        fields := e.fields ++ (values.filter (!isMessage ·)).map field } := by
  induction values generalizing e with
  | nil => simp
  | cons x rest ih =>
    rw [List.foldl_cons, ih, record_eq]
    cases hx : isMessage x with
    | true =>
      -- the value is the message, unless another one follows
      simp only [hx, if_true, List.filter_cons, Bool.not_true, Bool.false_eq_true, if_false,
        List.getLast?_cons]
      cases (rest.filter isMessage).getLast? <;> rfl
    | false => simp [hx]

/-- The last value that can be the message is the message, and all that cannot be it are fields. -/
theorem ofRecord_eq (level : Level) (values : List (String × Recorded)) :
    ofRecord level values =
      { level
        message := ((values.filter isMessage).getLast?.map (·.2.render)).getD ""
        fields := (values.filter (!isMessage ·)).map field } := by
  show values.foldl (fun (e : Entry) x => e.record x.1 x.2) ⟨level, "", []⟩ = _
  rw [foldl_record, List.nil_append]

theorem level_write (level : Level) (message : String) (fields : List (String × Recorded)) :
    (write level message fields).level = level := by
  rw [write, ofRecord_eq]

/-! ## Records with one message -/

theorem isMessage_of_ne {x : String × Recorded} (h : x.1 ≠ messageName) : isMessage x = false := by
  simp [isMessage, h]

theorem filter_isMessage (h : ∀ x ∈ before ++ after, x.1 ≠ messageName) :
    (before ++ (messageName, v) :: after).filter isMessage =
      if v.isFlag then [] else [(messageName, v)] := by
  have hbefore : before.filter isMessage = [] := by
    refine List.filter_eq_nil_iff.2 fun x hx => ?_
    simp [isMessage_of_ne (h x (List.mem_append_left _ hx))]
  have hafter : after.filter isMessage = [] := by
    refine List.filter_eq_nil_iff.2 fun x hx => ?_
    simp [isMessage_of_ne (h x (List.mem_append_right _ hx))]
  rw [List.filter_append, List.filter_cons, hbefore, hafter]
  cases hv : v.isFlag <;> simp [isMessage, hv]

theorem filter_not_isMessage (h : ∀ x ∈ before ++ after, x.1 ≠ messageName) :
    (before ++ (messageName, v) :: after).filter (!isMessage ·) =
      if v.isFlag then before ++ (messageName, v) :: after else before ++ after := by
  have hbefore : before.filter (!isMessage ·) = before := by
    refine List.filter_eq_self.2 fun x hx => ?_
    simp [isMessage_of_ne (h x (List.mem_append_left _ hx))]
  have hafter : after.filter (!isMessage ·) = after := by
    refine List.filter_eq_self.2 fun x hx => ?_
    simp [isMessage_of_ne (h x (List.mem_append_right _ hx))]
  rw [List.filter_append, List.filter_cons, hbefore, hafter]
  cases hv : v.isFlag <;> simp [isMessage, hv]

/-- A record with one message, wherever it stands, becomes an entry with this message, whose fields
    are the other values, unless the message is a truth value: then the entry has no message, and
    all values are fields. So the message is kept apart just if it is no truth value. -/
theorem ofRecord_message (level : Level) (v : Recorded)
    (h : ∀ x ∈ before ++ after, x.1 ≠ messageName) :
    (ofRecord level (before ++ (messageName, v) :: after) =
      if v.isFlag then ⟨level, "", (before ++ (messageName, v) :: after).map field⟩
      else ⟨level, v.render, (before ++ after).map field⟩) ∧
    (ofRecord level (before ++ (messageName, v) :: after) =
        ⟨level, v.render, (before ++ after).map field⟩ ↔ v.isFlag = false) := by
  have heq : ofRecord level (before ++ (messageName, v) :: after) =
      if v.isFlag then ⟨level, "", (before ++ (messageName, v) :: after).map field⟩
      else ⟨level, v.render, (before ++ after).map field⟩ := by
    rw [ofRecord_eq, filter_isMessage h, filter_not_isMessage h]
    cases v.isFlag <;> rfl
  refine ⟨heq, ?_⟩
  rw [heq]
  cases hv : v.isFlag with
  | false => exact iff_of_true (if_neg (by simp)) rfl
  | true =>
    -- without a message the entry is not the one with the truth value for its message
    refine iff_of_false (fun hsame => ?_) (by simp)
    rw [if_pos rfl] at hsame
    exact Recorded.render_ne_empty hv (congrArg Entry.message hsame).symm

/-- A truth value recorded as the message between two other values becomes a field like them, and
    the message is empty. -/
theorem ofRecord_flag :
    ofRecord .info [("first", .whole 1), (messageName, .flag true), ("last", .text "x")] =
        ⟨.info, "", [("first", "1"), (messageName, "true"), ("last", "x")]⟩ ∧
      ¬ ∀ (level : Level) (before after : List (String × Recorded)) (v : Recorded),
        (∀ x ∈ before ++ after, x.1 ≠ messageName) →
        ofRecord level (before ++ (messageName, v) :: after) =
          ⟨level, v.render, (before ++ after).map field⟩ := by
  refine ⟨by decide, fun hall => ?_⟩
  have hflag := hall .info [("first", .whole 1)] [("last", .text "x")] (.flag true) (by decide)
  exact absurd (congrArg Entry.message hflag) (by decide)

end Entry

end WorkerRoster
