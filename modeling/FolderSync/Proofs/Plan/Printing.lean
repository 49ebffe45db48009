import FolderSync.Proofs.Engine.Accounting
import FolderSync.Proofs.Json.Value
import FolderSync.Proofs.Plan.Partition

/-!
# A plan in writing

Asked for JSON, the command that says what a synchronization would change prints the plan as one
object, and the plan can be told from what is printed (`check_lossless`).

* `Plan.Says`: the text is read as an object whose lists are the sets of the plan.  A text says one
  plan at most (`Says.unique`).
* `read_text`: a plan in writing is read as its fields, which come back in the order of their names.
-/

namespace FolderSync

/-- The name of the field for a fate. -/
def Fate.key : Fate → String
  | .install => "to_install"
  | .update => "to_update"
  | .keep => "up_to_date"
  | .skip => "skipped"

namespace Plan

/-- The text is read as an object with one field for each fate and no other.  The field is a list of
the names of that fate, each of them once, in increasing order of their bytes. -/
def Says (p : Plan) (text : String) : Prop :=
  ∃ fields, Json.read (utf8 text) = .ok (.object fields) ∧
    fields.map Prod.fst = ["skipped", "to_install", "to_update", "up_to_date"] ∧
    ∀ k : Fate, ∃ names : List String,
      valueOf? k.key fields = some (.array (names.map .string)) ∧
        names.Pairwise byteLt ∧ ∀ name, name ∈ names ↔ name ∈ p.set k

/-- A text says one plan at most. -/
theorem Says.unique {text : String} {p q : Plan} (hp : p.Says text) (hq : q.Says text) : p = q := by
  obtain ⟨fields, hread, -, hlists⟩ := hp
  obtain ⟨others, hread', -, hlists'⟩ := hq
  rw [hread] at hread'
  obtain rfl : fields = others := by simpa using hread'
  refine eq_of_mem_set_iff fun k name => ?_
  obtain ⟨names, hvalue, -, hmem⟩ := hlists k
  obtain ⟨names', hvalue', -, hmem'⟩ := hlists' k
  rw [hvalue, Option.some.injEq, Json.array.injEq] at hvalue'
  obtain rfl : names = names' :=
    List.map_injective_iff.2 (fun _ _ h => Json.string.inj h) hvalue'
  rw [← hmem, ← hmem']

/-! ### Reading a plan in writing -/

variable (p : Plan)

/-- The fields of a plan in the order in which they are read. -/
def readFields : List (String × Json) :=
  [("skipped", namesJson p.skipped),
    ("to_install", namesJson p.toInstall),
    ("to_update", namesJson p.toUpdate),
    ("up_to_date", namesJson p.upToDate)]

theorem valueOf?_key (k : Fate) : valueOf? k.key p.readFields = some (namesJson (p.set k)) := by
  cases k <;> rfl

theorem isItem_namesJson (s : NameSet) {depth : Nat} (layout : Json.Layout) (indent : Nat) :
    Json.IsItem (Json.readValue (depth + 1)) (bytesOf ((namesJson s).chars layout indent))
      (namesJson s) := by
  refine Json.isItem_chars (.array fun item hitem => ?_) layout indent
  obtain ⟨name, -, rfl⟩ := List.mem_map.1 hitem
  exact .string name

theorem isItem_toJson {depth : Nat} (layout : Json.Layout) (indent : Nat) :
    Json.IsItem (Json.readValue (depth + 2)) (bytesOf (p.toJson.chars layout indent))
      (.object p.readFields) := by
  have hfields : Json.objectOf [
      ("to_install", namesJson p.toInstall),
      ("to_update", namesJson p.toUpdate),
      ("up_to_date", namesJson p.upToDate),
      ("skipped", namesJson p.skipped)] = .object p.readFields := rfl
  rw [← hfields]
  exact Json.isItem_fields layout indent (by simp [isItem_namesJson])

/-- **A plan in writing is read as its fields**, also with blanks behind it. -/
theorem read_text {blanks : Bytes} (h : ∀ b ∈ blanks, Json.isBlank b = true) :
    Json.read (utf8 p.text ++ blanks) = .ok (.object p.readFields) := by
  rw [text, Json.pretty, utf8_ofList]
  exact Json.read_of_isItem (p.isItem_toJson .pretty 0) h

theorem says_of_read {text : String} (h : Json.read (utf8 text) = .ok (.object p.readFields)) :
    p.Says text :=
  ⟨p.readFields, h, rfl, fun k => ⟨(p.set k).names, p.valueOf?_key k, NameMap.pairwise_names _,
    fun _ => NameSet.mem_names_iff⟩⟩

theorem says_text : p.Says p.text := by
  have hread := p.read_text (show ∀ b ∈ ([] : Bytes), Json.isBlank b = true by simp)
  rw [List.append_nil] at hread
  exact p.says_of_read hread

theorem says_line : p.Says (CommandLine.line p.text) := by
  have hend : utf8 "\n" = [10] := by decide
  refine p.says_of_read ?_
  rw [CommandLine.line, utf8_append, hend]
  exact p.read_text (by simp [Json.isBlank])

end Plan

/-! ### What the command prints -/

/-- Asked for JSON, the command prints the plan in writing and nothing else. -/
theorem check_json (painting : Bool) (net : Network) (e : Engine) (s : Session) :
    CommandLine.check painting net true e.config s =
      match e.plan net s with
      | (t, .ok p) => (t, CommandLine.line p.text, none)
      | (t, .error fault) => (t, "", some (.sync fault)) := by
  unfold CommandLine.check
  rw [Engine.ofConfig_config]
  rcases hplan : e.plan net s with ⟨t, fault | p⟩ <;> simp only [hplan, if_true]

/-- **What is printed of a plan says the plan.**  Where there is a plan, it is all that the command
prints when asked for JSON.  The text of any plan, be it one of a manifest or not, is read as an object
with its four sets, with the end of the line behind it or without; so plans with the same text are the
same. -/
theorem check_lossless :
    (∀ (painting : Bool) (net : Network) (e : Engine) (s : Session),
      CommandLine.check painting net true e.config s =
        match e.plan net s with
        | (t, .ok p) => (t, CommandLine.line p.text, none)
        | (t, .error fault) => (t, "", some (.sync fault))) ∧
    ∀ p : Plan, p.Says p.text ∧ p.Says (CommandLine.line p.text) ∧
      ∀ q : Plan, (q.text = p.text ↔ q = p) ∧
        (CommandLine.line q.text = CommandLine.line p.text ↔ q = p) := by
  refine ⟨check_json, fun p => ⟨p.says_text, p.says_line, fun q =>
    ⟨⟨fun h => ?_, ?_⟩, ⟨fun h => ?_, ?_⟩⟩⟩⟩
  · have hp := p.says_text
    rw [← h] at hp
    exact q.says_text.unique hp
  · rintro rfl
    rfl
  · have hp := p.says_line
    rw [← h] at hp
    exact q.says_line.unique hp
  · rintro rfl
    rfl

/-- A quote and the end of a line in a name stay inside the quotes around it. -/
example : ({ toInstall := NameSet.add .empty "a\"\n" } : Plan).text =
    "\x7b\n  \"to_install\": [\n    \"a\\\"\\n\"\n  ],\n  \"to_update\": [],\n" ++
      "  \"up_to_date\": [],\n  \"skipped\": []\n\x7d" := by
  decide +kernel

end FolderSync
