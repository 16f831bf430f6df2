import Formulary.Proofs.DateText
import Formulary.Proofs.Reached

/-!
# The lines of front matter

Front matter is a fence, one line for each field, and a fence, as long as no line break gets from a
value into its line. Dates, times and toggles have values of a fixed form, and in quotes line feeds
are written as escapes. Numbers and ranges keep any text and write it as it is.

* `laidOut_frontMatter_iff`: front matter is laid out in lines just if no line has a break in it.
* `laidOut_submit_iff`: which values decide on that, when a form is submitted.
-/

namespace Formulary.Form

/-- The characters that end a line for some reader. -/
def lineBreaks : List Char := ['\n', '\r', '\x0b', '\x0c', '\u0085', '\u2028', '\u2029']

/-- A fence, one line for each id that starts with the id and a colon and has none of `breaks` in
it, and a fence. -/
def LaidOut (breaks : List Char) (ids : List String) (text : List Char) : Prop :=
  ∃ lines, text = (fence :: lines ++ [fence]).flatMap (· ++ ['\n']) ∧
    List.Forall₂ (fun (id : String) line => id.toList ++ [':'] <+: line) ids lines ∧
    ∀ line ∈ lines, ∀ c ∈ breaks, c ∉ line

/-- Kinds whose values are all of a form of their own. -/
def Kind.isFormatted : Kind → Bool
  | .date | .time | .toggle => true
  | _ => false

/-- A line break in a value of the kind comes into the line of the field. -/
def Kind.spills (kind : Kind) (c : Char) : Bool :=
  !kind.isFormatted && !(kind.isQuoted && c == '\n')

variable {breaks : List Char} {c : Char}

/-! ## Lines -/

/-- Lines one under the other. -/
theorem count_newline_cons (line : List Char) (lines : List (List Char)) :
    ((line :: lines).flatMap (· ++ ['\n'])).count '\n' =
      line.count '\n' + (lines.flatMap (· ++ ['\n'])).count '\n' + 1 := by
  rw [List.flatMap_cons, List.count_append, List.count_append, List.count_singleton_self]
  omega

theorem length_le_count_newline (lines : List (List Char)) :
    lines.length ≤ (lines.flatMap (· ++ ['\n'])).count '\n' := by
  induction lines with
  | nil => exact Nat.zero_le _
  | cons line lines ih =>
    rw [count_newline_cons, List.length_cons]
    omega

/-- A text has as many line feeds as it has lines, just if the lines have none of their own. -/
theorem count_newline_eq_length_iff {lines : List (List Char)} :
    (lines.flatMap (· ++ ['\n'])).count '\n' = lines.length ↔ ∀ line ∈ lines, '\n' ∉ line := by
  induction lines with
  | nil => exact iff_of_true rfl fun _ absurd => by cases absurd
  | cons line lines ih =>
    have least := length_le_count_newline lines
    rw [count_newline_cons, List.length_cons, List.forall_mem_cons, ← ih, ← List.count_eq_zero]
    omega

theorem mem_flatMap_newline {lines : List (List Char)} (other : c ≠ '\n') :
    c ∈ lines.flatMap (· ++ ['\n']) ↔ ∃ line ∈ lines, c ∈ line := by
  simp [other]

/-- **Front matter is laid out in lines just if none of them has a break in it.** -/
theorem laidOut_frontMatter_iff {data : List FieldData} (newline : '\n' ∈ breaks)
    (dash : '-' ∉ breaks) :
    LaidOut breaks (data.map FieldData.id) (frontMatter data).toList ↔
      ∀ d ∈ data, ∀ c ∈ breaks, c ∉ d.line := by
  rw [frontMatter, String.toList_ofList]
  constructor
  · rintro ⟨lines, text, each, free⟩
    have count : lines.length = data.length := by
      rw [← each.length_eq, List.length_map]
    have bars : ∀ c ∈ breaks, c ∉ fence := by
      rintro c among bar
      cases List.eq_of_mem_replicate (show c ∈ List.replicate 3 '-' from bar)
      exact dash among
    have whole : ∀ line ∈ fence :: lines ++ [fence], ∀ c ∈ breaks, c ∉ line := by
      simpa [or_imp, forall_and] using ⟨bars, free, bars⟩
    intro d member c among spilled
    have inside : d.line ∈ fence :: data.map FieldData.line ++ [fence] := by
      simp [List.mem_map_of_mem member]
    by_cases feed : c = '\n'
    · -- As many line feeds as lines: none is left for the values.
      subst feed
      have counted : ((fence :: data.map FieldData.line ++ [fence]).flatMap (· ++ ['\n'])).count
          '\n' = (fence :: data.map FieldData.line ++ [fence]).length := by
        rw [text, count_newline_eq_length_iff.2 fun line there => whole line there '\n' newline]
        simp [count]
      exact count_newline_eq_length_iff.1 counted _ inside spilled
    · have there := (mem_flatMap_newline feed).2 ⟨d.line, inside, spilled⟩
      rw [text] at there
      obtain ⟨line, within, held⟩ := (mem_flatMap_newline feed).1 there
      exact whole line within c among held
  · intro free
    refine ⟨data.map FieldData.line, rfl, ?_, List.forall_mem_map.2 free⟩
    rw [List.forall₂_map_left_iff, List.forall₂_map_right_iff, List.forall₂_same]
    intro d member
    rw [FieldData.line]
    simp

/-! ## Which values break their line -/

theorem mem_escapeQuoted_iff (among : c ∈ lineBreaks) (x : Char) :
    c ∈ escapeQuoted x ↔ c = x ∧ c ≠ '\n' := by
  have other : c ≠ '\\' ∧ c ≠ '"' ∧ c ≠ 'n' := by
    have each : ∀ c ∈ lineBreaks, c ≠ '\\' ∧ c ≠ '"' ∧ c ≠ 'n' := by
      decide
    exact each c among
  unfold escapeQuoted
  split
  · simp [other]
  · simp [other]
  · simp only [List.mem_cons, List.not_mem_nil, other, or_false, false_iff]
    exact fun both => both.2 both.1
  · rename_i feed
    rw [List.mem_singleton]
    refine ⟨fun same => ⟨same, ?_⟩, And.left⟩
    rw [same]
    exact feed

/-- In quotes a line feed is written as an escape, and nothing else that breaks a line is. -/
theorem mem_quoteValue_iff (among : c ∈ lineBreaks) (s : List Char) :
    c ∈ quoteValue s ↔ c ∈ s ∧ c ≠ '\n' := by
  have bar : c ≠ '"' := by
    rintro rfl
    exact absurd among (by decide)
  rw [quoteValue, List.cons_append, List.mem_cons, List.mem_append, List.mem_singleton,
    List.mem_flatMap]
  constructor
  · rintro (start | ⟨x, member, inside⟩ | stop)
    · exact absurd start bar
    · obtain ⟨rfl, other⟩ := (mem_escapeQuoted_iff among x).1 inside
      exact ⟨member, other⟩
    · exact absurd stop bar
  · rintro ⟨member, other⟩
    exact Or.inr (Or.inl ⟨c, member, (mem_escapeQuoted_iff among c).2 ⟨rfl, other⟩⟩)

/-- A break in the line of a field comes from its value. -/
theorem mem_line_iff {d : FieldData} (among : c ∈ lineBreaks) (named : c ∉ d.id.toList) :
    c ∈ d.line ↔ c ∈ d.value.toList ∧ ¬ (d.kind.isQuoted = true ∧ c = '\n') := by
  have between : c ∉ [':', ' '] := by
    have each : ∀ c ∈ lineBreaks, c ∉ [':', ' '] := by
      decide
    exact each c among
  rw [FieldData.line, List.mem_append, List.mem_append, or_iff_right named, or_iff_right between]
  cases quoted : d.kind.isQuoted with
  | false => simp
  | true => simp [mem_quoteValue_iff among]

/-! ## Values of a fixed form -/

theorem not_mem_padded (among : c ∈ lineBreaks) (width n : Nat) :
    c ∉ Calendar.padded width n := by
  have each : ∀ c ∈ lineBreaks, c.isDigit = false := by
    decide
  exact Calendar.notMem_padded (each c among) width n

theorem not_mem_dateText (among : c ∈ lineBreaks) (date : Calendar.Date) :
    c ∉ date.text.toList := by
  have signs : c ≠ '-' ∧ c ≠ '+' := by
    have each : ∀ c ∈ lineBreaks, c ≠ '-' ∧ c ≠ '+' := by
      decide
    exact each c among
  have year : c ∉ Calendar.yearText date.year := by
    unfold Calendar.yearText
    split
    · exact not_mem_padded among _ _
    · split <;> simp [signs, not_mem_padded among]
  simp [Calendar.Date.text, year, signs, not_mem_padded among]

theorem not_mem_timeText (among : c ∈ lineBreaks) (time : Calendar.Time) :
    c ∉ time.text.toList := by
  have colon : c ≠ ':' := by
    rintro rfl
    exact absurd among (by decide)
  simp [Calendar.Time.text, colon, not_mem_padded among]

theorem not_mem_toggleText (among : c ∈ lineBreaks) (v : Json) : c ∉ (coerceToggle v).toList := by
  have each : ∀ c ∈ lineBreaks, c ∉ "true".toList ∧ c ∉ "false".toList := by
    decide
  rcases coerceToggle_cases v with holds | fails
  · rw [holds]
    exact (each c among).1
  · rw [fails]
    exact (each c among).2

/-- Dates, times and toggles take no value with a line break. -/
theorem not_mem_of_coerce {kind : Kind} {limits : Limits} {v : Json} {value : String}
    (formatted : kind.isFormatted = true) (taken : coerce kind limits v = .ok value)
    (among : c ∈ lineBreaks) : c ∉ value.toList := by
  unfold coerce at taken
  split at taken
  · cases taken
    exact List.not_mem_nil
  · cases kind with
    | date =>
      obtain ⟨date, rfl⟩ := coerceDate_eq_ok taken
      exact not_mem_dateText among date
    | time =>
      obtain ⟨time, rfl⟩ := coerceTime_eq_ok taken
      exact not_mem_timeText among time
    | toggle =>
      cases taken
      exact not_mem_toggleText among v
    | _ => cases formatted

theorem lasts_formatted (form : Definition) : Lasts form fun f state =>
    f.kind.isFormatted = true → ∀ c ∈ lineBreaks, c ∉ state.value.toList where
  created := fun _ _ _ _ _ => List.not_mem_nil
  refreshed := by
    intro f _ s change state free formatted c among
    have plain : f.kind.isDropdown = false := by
      cases kind : f.kind <;> simp_all [Kind.isFormatted, Kind.isDropdown]
    rw [(Surroundings.renews_refresh state).value plain]
    unfold Surroundings.accepted
    split
    · exact free formatted c among
    · split
      · rename_i taken
        exact not_mem_of_coerce formatted taken among
      · exact free formatted c among
  marked := fun _ _ _ free => free

/-! ## Submitting -/

namespace Session

variable {s : Session} {form : Definition} {debounce : Nat} {env : Environment}
  {note : Submission}

/-- **When the front matter of a submitted form is laid out in lines.** It is just if no value has a
break that spills into its line: no break at all in a number or a range, and none but line feeds in
a kind that is quoted. -/
theorem laidOut_submit_iff (reached : s.Reached form debounce) (newline : '\n' ∈ breaks)
    (among : breaks ⊆ lineBreaks) (named : ∀ f ∈ form.fields, ∀ c ∈ breaks, c ∉ f.id.toList)
    (submitted : (s.submit env).1 = .ok note) :
    LaidOut breaks ((form.fields.filter Field.written).map Field.id) note.frontMatter.toList ↔
      ∀ d ∈ note.data, ∀ c ∈ breaks, d.kind.spills c = true → c ∉ d.value.toList := by
  obtain ⟨data, text⟩ := submit_ok submitted
  have settled : (s.settle env).Upholds form _ :=
    (Reached.acted env .settle reached).upholds (lasts_formatted form)
  have form_eq : (s.settle env).form = form := settled.ofForm
  have ids : (form.fields.filter Field.written).map Field.id = note.data.map FieldData.id := by
    rw [data, Session.data, form_eq, List.map_map]
    rfl
  have dash : '-' ∉ breaks := fun inside => absurd (among inside) (by decide)
  rw [ids, text, laidOut_frontMatter_iff newline dash]
  refine forall_congr' fun d => forall_congr' fun member => forall_congr' fun c =>
    forall_congr' fun inside => ?_
  -- Each line stands for a field of the form, with the value of its state.
  obtain ⟨f, within, rfl⟩ : ∃ f ∈ form.fields,
      d = ⟨f.id, f.kind, ((s.settle env).value? f.id).getD ""⟩ := by
    rw [data, Session.data, form_eq] at member
    obtain ⟨f, there, same⟩ := List.mem_map.1 member
    exact ⟨f, (List.mem_filter.1 there).1, same.symm⟩
  rw [mem_line_iff (among inside) (named f within c inside)]
  obtain ⟨state, found, free⟩ := settled.fields f within
  have value : ((s.settle env).value? f.id).getD "" = state.value := by
    rw [value?, found]
    rfl
  rw [value, Kind.spills]
  cases formatted : f.kind.isFormatted with
  | true => simp [free formatted c (among inside)]
  | false => grind

/-! ## An example -/

def remark : Field := { id := "remark", label := "Remark", kind := .textarea }

def count : Field :=
  { id := "count", label := "Count", kind := .number, content := some (.fixed "1") }

def ledger : Definition := { title := "Ledger", fields := [remark, count] }

/-- No notes, and the first instant. -/
def nowhere : Environment := ⟨⟨fun _ => none, fun path => .error path, fun _ => none⟩, 0⟩

/-- The note that is submitted after one edit of the ledger. -/
def noteAfter (id raw : String) : Option Submission := do
  let s ← (start ledger defaultDebounce).toOption
  (((s.computeAll nowhere).act nowhere (.edit id raw)).submit nowhere).1.toOption

theorem submit_of_noteAfter {id raw text : String} {data : List FieldData}
    (submitted : (noteAfter id raw).map (fun note => (note.data, note.frontMatter)) =
      some (data, text)) :
    ∃ s note, start ledger defaultDebounce = .ok s ∧
      (((s.computeAll nowhere).act nowhere (.edit id raw)).submit nowhere).1 = .ok note ∧
      note.data = data ∧ note.frontMatter = text := by
  unfold noteAfter at submitted
  cases opened : start ledger defaultDebounce with
  | error e =>
    rw [opened] at submitted
    cases submitted
  | ok s =>
    rw [opened] at submitted
    cases done : (((s.computeAll nowhere).act nowhere (.edit id raw)).submit nowhere).1 with
    | error e => simp [Except.toOption, done] at submitted
    | ok note =>
      refine ⟨s, note, rfl, done, ?_⟩
      simpa [Except.toOption, done] using submitted

theorem names_ledger : ∀ f ∈ ledger.fields, ∀ c ∈ ['\n', '\r'], c ∉ f.id.toList := by
  decide

/-- A remark of two lines is one line of the front matter. -/
theorem laidOut_submit_ledger : ∃ s note, start ledger defaultDebounce = .ok s ∧
    (((s.computeAll nowhere).act nowhere (.edit "remark" "one\n---")).submit nowhere).1 =
      .ok note ∧
    LaidOut ['\n', '\r'] ["remark", "count"] note.frontMatter.toList := by
  have after : (noteAfter "remark" "one\n---").map (fun note => (note.data, note.frontMatter)) =
      some ([⟨"remark", .textarea, "one\n---"⟩, ⟨"count", .number, "1"⟩],
        "---\nremark: \"one\\n---\"\ncount: 1\n---\n") := by
    decide +kernel
  obtain ⟨s, note, opened, submitted, data, -⟩ := submit_of_noteAfter after
  refine ⟨s, note, opened, submitted, ?_⟩
  have reached := Reached.acted nowhere (.edit "remark" "one\n---")
    (.allComputed nowhere (.opened opened))
  refine (laidOut_submit_iff reached (by decide) (by decide) names_ledger submitted).2 ?_
  rw [data]
  decide

/-- A number with a line feed closes the front matter. -/
theorem not_laidOut_ledger : ∃ s note, start ledger defaultDebounce = .ok s ∧
    (((s.computeAll nowhere).act nowhere (.edit "count" "1\n---")).submit nowhere).1 = .ok note ∧
    (∀ f ∈ ledger.fields, '\n' ∉ f.id.toList) ∧
    note.frontMatter = "---\nremark: \"\"\ncount: 1\n---\n---\n" ∧
    ¬ LaidOut ['\n'] ["remark", "count"] note.frontMatter.toList := by
  have after : (noteAfter "count" "1\n---").map (fun note => (note.data, note.frontMatter)) =
      some ([⟨"remark", .textarea, ""⟩, ⟨"count", .number, "1\n---"⟩],
        "---\nremark: \"\"\ncount: 1\n---\n---\n") := by
    decide +kernel
  obtain ⟨s, note, opened, submitted, data, text⟩ := submit_of_noteAfter after
  refine ⟨s, note, opened, submitted, by decide, text, ?_⟩
  have ids : ["remark", "count"] = note.data.map FieldData.id := by
    rw [data]
    rfl
  rw [ids, (submit_ok submitted).2, laidOut_frontMatter_iff (by decide) (by decide), data]
  decide

end Session

end Formulary.Form
