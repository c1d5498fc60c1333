import Swatch.CommandLine.Outcome
import Swatch.CommandLine.Report

/-!
Carrying out a command line. A run is a function of what it finds: the entry at the path of its
settings, the text of its input, the keys typed into the editor, and the characters that its output
can take. Nothing is printed before every color has been read, so that a run prints no line or all
of them, up to one that its output cannot take.
-/
namespace Swatch.CommandLine

/-- What a run finds when it looks for it: the entry at the default path of its settings and the
entries at other paths, its input as the stream of it is read, the keys typed into its editor, and
which characters the encoding of its output has. An encoding of all characters still has none of the
halves that a document can ask for. -/
structure Surroundings where
  home : Text
  homeSettings : FileEntry
  find : Path → FileEntry
  input : Text := []
  keys : List Key := []
  takes : Char → Bool := fun _ => true

/-- The path of the settings file used when none is named. -/
def defaultSettingsPath (home : Text) : Path :=
  .ofText (home ++ "/.config/colorfmt/config.yaml".toList)

/-- The colors in an input: its lines that are not blank, without the blanks around them. Only a
line feed ends a line; a carriage return in front of it is a blank. -/
def inputColors (input : Text) : List Text :=
  ((input.pieces '\n').map Text.trim).filter fun line => !line.isEmpty

namespace Request

/-- The path of the settings file, unless the option that names it was given nothing. -/
def settingsPath? (r : Request) (home : Text) : Option Path :=
  match r.config with
  | none => some (defaultSettingsPath home)
  | some (.text t) => some (.ofText t)
  | some .nothing => none

/-- What stands at the path of the settings file. -/
def settingsEntry (r : Request) (s : Surroundings) (path : Path) : FileEntry :=
  if r.config.isSome then s.find path else s.homeSettings

/-- Whether a run takes its colors from its input. -/
def readsInput (r : Request) : Bool := !r.edit && r.colors.isEmpty

/-- The texts that name the colors of a run. -/
def colorTexts (r : Request) (input : Text) : List Text :=
  if r.colors.isEmpty then inputColors input else r.colors

/-- The formatter asked for, or else the one the settings give. Only in the place of a template does
nothing stand for something, which is the template without parts. -/
def formatter (r : Request) (settings : Settings) : Except RunError Formatter :=
  match r.selection with
  | some (.custom (.text t)) => (Formatter.choose none (some t)).mapError .choice
  | some (.preset (.text name)) => (Formatter.choose (some name) none).mapError .choice
  | some (.template (.text name)) => (settings.formatter (some name)).mapError .formatter
  | some (.custom .nothing) => .ok (.template ⟨[], []⟩)
  | some (.preset .nothing) => .error (.givenNothing .format)
  | some (.template .nothing) => .error (.givenNothing .template)
  | none => (settings.formatter none).mapError .formatter

/-- The lines a run prints: one for every color, in their order. -/
def rendered (r : Request) (settings : Settings) (input : Text) : Except RunError (List Text) := do
  let f ← r.formatter settings
  let samples ← ((r.colorTexts input).mapM Sample.read).mapError .color
  return samples.map f.render

/-- The text an editing session begins with: the template asked for, or else the custom template of
the settings. -/
def initialText (r : Request) (settings : Settings) : Except RunError Text :=
  match r.selection with
  | some (.custom (.text t)) => .ok t
  | some (.template (.text name)) => (settings.templateText name).mapError .formatter
  | some (.template .nothing) => .error (.givenNothing .template)
  | _ => .ok (settings.custom.getD [])

/-- The sample an editing session previews: the first color given, or else that of the settings. -/
def previewSample (r : Request) (settings : Settings) : Except RunError Sample :=
  (r.colors.head?.elim settings.editor.sample Sample.read).mapError .color

/-- What an editing session begins with: its text and its sample. It needs styles that can be used,
and a text to begin with. -/
def opening (r : Request) (settings : Settings) : Except RunError (Text × Sample) := do
  let text ← r.initialText settings
  let sample ← r.previewSample settings
  (Style.checkAll (StyleClass.table settings.editor.styles)).mapError .style
  if r.selection = some (.custom .nothing) then throw (.givenNothing .custom)
  return (text, sample)

/-- What an editing session prints at its end, which is the text that was accepted. -/
def printed : SessionEnd → Except RunError (List Text)
  | .accepted text => .ok [text]
  | .interrupted => .error .interrupted
  | .closed => .error .inputClosed

/-- An editing session: what is seen of it, and what it prints if it ends. -/
def edited (r : Request) (settings : Settings) (keys : List Key) :
    List Editor.Snapshot × Option (Except RunError (List Text)) :=
  match r.opening settings with
  | .error e => ([], some (.error e))
  | .ok (text, sample) =>
    let (trace, ending) := Editor.run sample (.start text) keys
    (trace, ending.map printed)

/-- What is seen of a run and what it prints, once its settings are loaded. -/
def result (r : Request) (s : Surroundings) :
    Except LoadError Settings → List Editor.Snapshot × Option (Except RunError (List Text))
  | .error e => ([], some (.error (.loading e)))
  | .ok settings =>
    if r.edit then r.edited settings s.keys else ([], some (r.rendered settings s.input))

/-- Where the template of a run is from. -/
def templateOrigin (r : Request) : Text.Origin :=
  match r.selection with
  | some (.custom _) => .argument
  | _ => .document

/-- What a run reports about obtaining its formatter. -/
def formatterReports (r : Request) (settings : Settings) : List Report :=
  if r.edit then []
  else if r.selection = some (.custom .nothing) then [.nothingRead, .nothingChosen]
  else match r.formatter settings with
    | .ok f => Report.ofFormatter r.templateOrigin f
    | .error _ => []

/-- What a run reports about itself. -/
def reports (r : Request) (path : Text) (found : FileEntry) : List Report :=
  Report.ofLoading path found ++
    match Settings.load path found with
    | .ok settings => r.formatterReports settings
    | .error _ => []

/-- The outcome of a request. -/
def run (r : Request) (s : Surroundings) : Outcome :=
  match r.settingsPath? s.home with
  | none => .ofResult s.takes [] [] (some (.error (.givenNothing .config)))
  | some path =>
    let found := r.settingsEntry s path
    let reports := if r.verbose then (r.reports path.text found).flatMap Report.line else []
    let (trace, result) := r.result s (Settings.load path.text found)
    .ofResult s.takes reports trace result

end Request

/-- The outcome of a command line. -/
def run (words : List Text) (s : Surroundings) : Outcome :=
  match Request.ofTexts words with
  | .error stop => .ofStop stop
  | .ok r => r.run s

end Swatch.CommandLine
