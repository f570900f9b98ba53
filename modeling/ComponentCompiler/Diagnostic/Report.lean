import ComponentCompiler.Diagnostic.Policy

/-!
# Reporting diagnostics

The diagnostics of one file become log records, category by category: a header that names the
file, then the messages. Parser errors and tips get a record each; template errors share one, in
which every message stands above its code frame. Nothing is reported of a category without an
allowed message. A report has the frame of each of its template errors drawn, which may fail.
-/

namespace ComponentCompiler

/-- Whether a record opens a group or belongs to one. -/
inductive RecordRole where
  | header
  | detail
  deriving DecidableEq, Repr

def RecordRole.name : RecordRole → String
  | .header => "header"
  | .detail => "detail"

structure Record where
  kind : RecordRole
  category : Category
  file : String
  text : String
  deriving DecidableEq, Repr

def Record.severity (record : Record) : Severity := record.category.severity

/-- The word in brackets with which records start. -/
structure LineStyle where
  tag : String := "revue"
  deriving DecidableEq, Repr, Inhabited

namespace LineStyle

def header (style : LineStyle) (file : String) (category : Category) : String :=
  "[" ++ style.tag ++ "] " ++ category.heading ++ " in file: " ++ file

/-- A message with its category. -/
def line (style : LineStyle) (d : Diagnostic) : String :=
  "[" ++ style.tag ++ ": " ++ d.category.tag ++ "] " ++ d.message

/-- Puts two blanks before every line. -/
def indented (text : String) : String :=
  String.ofList (Text.joined ['\n'] ((Text.lines text.toList).map (' ' :: ' ' :: ·)))

/-- A message above a code frame, if there is one. -/
def above (d : Diagnostic) : Option String → String
  | some frame => "  " ++ d.message ++ "\n\n" ++ indented frame
  | none => "  " ++ d.message

/-- A message above its code frame, if its place is known. -/
def entry (sources : SourceSet) (d : Diagnostic) : String := above d (sources.frame? d.span)

/-- All entries of a category in one text. -/
def together (style : LineStyle) (category : Category) (entries : List String) : String :=
  "[" ++ style.tag ++ ": " ++ category.heading ++ "]\n\n" ++
    String.intercalate "\n\n" entries ++ "\n"

/-- All messages of a category in one text. -/
def block (style : LineStyle) (sources : SourceSet) (category : Category)
    (diagnostics : List Diagnostic) : String :=
  style.together category (diagnostics.map (entry sources))

/-- The texts of the records after a header. -/
def details (style : LineStyle) (sources : SourceSet) (category : Category)
    (diagnostics : List Diagnostic) : List String :=
  match category with
  | .templateError => [style.block sources category diagnostics]
  | .parserError | .templateTip => diagnostics.map style.line

end LineStyle

/-- A header with the records after it. -/
def headed (style : LineStyle) (file : String) (category : Category) (details : List String) :
    List Record :=
  ⟨.header, category, file, style.header file category⟩ ::
    details.map (⟨.detail, category, file, ·⟩)

/-- The records of one category, for messages that are allowed. -/
def groupRecords (style : LineStyle) (sources : SourceSet) (file : String) (category : Category)
    (allowed : List Diagnostic) : List Record :=
  if allowed.isEmpty then []
  else headed style file category (style.details sources category allowed)

/-- What becomes of the diagnostics of one category. -/
inductive Reported where
  /-- There are some, and the category is switched off. -/
  | silenced (category : Category)
  | record (record : Record)
  deriving DecidableEq, Repr

/-- What becomes of the diagnostics of one category of a file. -/
def reportCategory (style : LineStyle) (policy : Policy) (sources : SourceSet) (file : String)
    (diagnostics : List Diagnostic) (category : Category) : List Reported :=
  let present := diagnostics.filter fun d => d.category == category
  if present.isEmpty then
    []
  else if !(policy.category category).enabled then
    [.silenced category]
  else
    (groupRecords style sources file category (present.filter policy.admits)).map .record

/-- What becomes of the diagnostics of a file, in the order of the categories. -/
def report (style : LineStyle) (policy : Policy) (sources : SourceSet) (file : String)
    (diagnostics : List Diagnostic) : List Reported :=
  Category.all.flatMap (reportCategory style policy sources file diagnostics)

/-- Hands on what becomes of the diagnostics of a file, one after the other. The result is how many
records there were. -/
def handOn {m : Type → Type} [Monad m] (deliver : Record → m Unit) (silence : Category → m Unit) :
    List Reported → m Nat
  | [] => return 0
  | .record record :: rest => do
    deliver record
    return (← handOn deliver silence rest) + 1
  | .silenced category :: rest => do
    silence category
    handOn deliver silence rest

/-- The records of the diagnostics of a file. -/
def records (style : LineStyle) (policy : Policy) (sources : SourceSet) (file : String)
    (diagnostics : List Diagnostic) : List Record :=
  (report style policy sources file diagnostics).filterMap fun
    | .record record => some record
    | .silenced _ => none

/-! ### Reporting with drawn frames -/

namespace LineStyle

/-- A message above its code frame. -/
def drawnMessage? (sources : SourceSet) (d : Diagnostic) : Option String :=
  (sources.drawnFrame? d.span).map (above d)

/-- The texts of the records after a header. -/
def drawnDetails? (style : LineStyle) (sources : SourceSet) (category : Category)
    (diagnostics : List Diagnostic) : Option (List String) :=
  match category with
  | .templateError => do
    let entries ← diagnostics.mapM (drawnMessage? sources)
    return [style.together category entries]
  | .parserError | .templateTip => some (diagnostics.map style.line)

end LineStyle

/-- The records of one category, for messages that are allowed. -/
def drawnGroup? (style : LineStyle) (sources : SourceSet) (file : String) (category : Category)
    (allowed : List Diagnostic) : Option (List Record) :=
  if allowed.isEmpty then some []
  else (style.drawnDetails? sources category allowed).map (headed style file category)

/-- What becomes of the diagnostics of one category of a file. -/
def drawnCategory? (style : LineStyle) (policy : Policy) (sources : SourceSet) (file : String)
    (diagnostics : List Diagnostic) (category : Category) : Option (List Reported) :=
  let present := diagnostics.filter fun d => d.category == category
  if present.isEmpty then
    some []
  else if !(policy.category category).enabled then
    some [.silenced category]
  else
    (drawnGroup? style sources file category (present.filter policy.admits)).map (·.map .record)

/-- What becomes of the diagnostics of a file, in the order of the categories. -/
def drawnReport? (style : LineStyle) (policy : Policy) (sources : SourceSet) (file : String)
    (diagnostics : List Diagnostic) : Option (List Reported) := do
  let reported ← Category.all.mapM (drawnCategory? style policy sources file diagnostics)
  return reported.flatten

end ComponentCompiler
