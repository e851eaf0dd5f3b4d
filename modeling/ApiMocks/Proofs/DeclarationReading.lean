import ApiMocks.Emit.Bundle
import ApiMocks.Proofs.EscapedTexts
import ApiMocks.Proofs.ResponseNames
import Mathlib.Data.List.Forall2
import Mathlib.Data.String.Basic

/-!
# Reading what a module declares

A generated module is a text, and what it declares is what a reader finds in it.  A reader
cuts the text into lines.  A line that begins with `import ` imports, and one that begins
with `export ` opens a declaration, whose parts stand at open places of that line and of
some lines behind it.  No line within a declaration begins like that.  So the reader finds
the declarations one by one, and never has to know how many there are.

Two entries of the fixtures module stand for one fixture, in the table and in the interface
of its types.  They begin with the same key, and differ right behind it.

* `textLines`, `imported`, `declared`: a text line by line;
* `LineForm.gap?`, `number?`, `literal?`, `repeated?`, `upToMark`, `commonFront`: what
  stands at an open place;
* `readRoute?`, `readWorker?`, `readClass?`, `readTable`: the declarations of the modules;
* `LinesOf`: what holds of the lines of a text;
* `Read`: reading from the end of the lines to their beginning, with a law for each kind
  of line.
-/

namespace ApiMocks.Emit

/-! ## Lines -/

/-- The lines of a text in which each has its end. -/
def textLines (text : String) : List String :=
  (text.toList.splitOn '\n').dropLast.map String.ofList

def begins (front line : String) : Bool := front.toList.isPrefixOf line.toList

/-- The lines that import. -/
def imported (ls : List String) : List String := ls.filter (begins "import ")

/-- What is declared, in order: each line that begins with `export ` is read together with
all lines behind it. -/
def declared {α : Type} (read : List String → α) : List String → List α
  | [] => []
  | line :: behind =>
    if begins "export " line then read (line :: behind) :: declared read behind
    else declared read behind

/-- The lines that a text is put together from have some property.  They are the lines of the
text itself if none of its parts has a line end. -/
def LinesOf (text : String) (parts : List String) (p : List String → Prop) : Prop :=
  ∃ ls, text = lines ls ∧ ((∀ part ∈ parts, '\n' ∉ part.toList) → textLines text = ls) ∧ p ls

/-! ## Open places -/

/-- A line with an open place: what stands in front of the place, and behind it. -/
structure LineForm where
  before : String
  behind : String

/-- What stands at the open place. -/
def LineForm.gap? (form : LineForm) (line : String) : Option String := do
  let rest ← line.toList.dropPrefix? form.before.toList
  let text ← rest.dropSuffix? form.behind.toList
  return String.ofList text

/-- What stands at the open place of the line with some number. -/
def LineForm.gapAt? (form : LineForm) (number : Nat) (ls : List String) : Option String :=
  ls[number]?.bind form.gap?

/-- The number with some digits. -/
def number? (text : String) : Option Nat :=
  if text.toList.all Char.isDigit then some (Nat.ofDigitChars 10 text.toList 0) else none

/-- The value of a single-quoted literal. -/
def literal? (text : String) : Option String :=
  match text.toList with
  | '\'' :: rest =>
    match readTo '\'' rest with
    | some (body, []) => some (unescaped (String.ofList body))
    | _ => none
  | _ => none

/-- A text again and again, with some texts between. -/
def repeatWith (between : List String) (text : String) : String :=
  between.foldl (fun front s => front ++ s ++ text) text

/-- The text that is there again and again. -/
def repeated? (between : List String) (whole : String) : Option String :=
  let gaps := (String.join between).length
  let text := String.ofList (whole.toList.take ((whole.length - gaps) / (between.length + 1)))
  if repeatWith between text = whole then some text else none

/-- What stands in front of the first such character, and the rest with it. -/
def upToMark (mark : Char) (text : String) : String × String :=
  (String.ofList (text.toList.takeWhile (· != mark)),
    String.ofList (text.toList.dropWhile (· != mark)))

/-- What two texts begin with alike, and how they go on. -/
def commonFront : List Char → List Char → List Char × List Char × List Char
  | c :: s, d :: t =>
    if c = d then
      let parts := commonFront s t
      (c :: parts.1, parts.2)
    else ([], c :: s, d :: t)
  | s, t => ([], s, t)

/-! ## Declarations -/

/-- A type of the schemas. -/
def typeName : LineForm := ⟨"types.", ""⟩

/-- The line that asks for the method, behind some blanks. -/
def methodCheck (indent : String) : LineForm :=
  ⟨indent ++ "if (route.request().method().toLowerCase() !== '", "') \x7b"⟩

/-! ### Route handlers -/

/-- The open places of a route handler; which ones it has depends on its answer. -/
def routeName : LineForm := ⟨"export async function ", "("⟩
def routeDefault : LineForm := ⟨"  status = ", ""⟩
def routeType : LineForm := ⟨"  data?: Partial<types.", ">"⟩
def routeGlob : LineForm := ⟨"  await page.route(", ", async (route) => \x7b"⟩
def routeStatus : LineForm := ⟨"      status: ", ","⟩
def routeKeys : LineForm := ⟨"      json: data ? \x7b ...fixtures.", ","⟩

/-- The line that answers a route without a body. -/
def emptyAnswer : String := "    await route.fulfill(\x7b status \x7d);"

/-- The route handler that the lines begin with. -/
def readRoute? (ls : List String) : Option Handler := do
  let name ← routeName.gapAt? 0 ls
  let glob ← literal? (← routeGlob.gapAt? 4 ls)
  let method ← Method.ofName? (← (methodCheck "    ").gapAt? 5 ls)
  if ls[9]? = some emptyAnswer then
    let status ← number? (← routeDefault.gapAt? 2 ls)
    return { name, method, glob, answer := .empty status }
  else
    let schema ← routeType.gapAt? 2 ls
    let status ← number? (← routeStatus.gapAt? 10 ls)
    let key ← repeated? [", ...data \x7d : fixtures."] (← routeKeys.gapAt? 11 ls)
    return { name, method, glob, answer := .fixture status schema key }

/-! ### Service-worker handlers -/

/-- The open places of a service-worker handler. -/
def workerRequest : LineForm := ⟨"  return http.", ", () => \x7b"⟩
def workerGlob : LineForm := ⟨"(", ""⟩
def workerName : LineForm := ⟨"export const ", " = () => \x7b"⟩
def workerEmptyStatus : LineForm := ⟨"    return new HttpResponse(null, \x7b status: ", " \x7d);"⟩
def workerHead : LineForm := ⟨"export const ", ")) => \x7b"⟩
def workerTypes : LineForm := ⟨" = (data?: ", ""⟩
def workerKey : LineForm := ⟨"    const defaultData = fixtures.", ";"⟩
def workerStatus : LineForm :=
  ⟨"    return HttpResponse.json(responseData, \x7b status: ", " \x7d);"⟩

/-- The line that asks a service worker's data what it is. -/
def dataCheck : String := "    const responseData = typeof data === 'function'"

/-- The service-worker handler that the lines begin with.  A name in front of types ends at
the first blank. -/
def readWorker? (ls : List String) : Option Handler := do
  let request := upToMark '(' (← workerRequest.gapAt? 1 ls)
  let method ← Method.ofName? request.1
  let glob ← literal? (← workerGlob.gap? request.2)
  if ls[3]? = some dataCheck then
    let head := upToMark ' ' (← workerHead.gapAt? 0 ls)
    let type ← repeated? [" | ((defaultData: ", ") => "] (← workerTypes.gap? head.2)
    let schema ← typeName.gap? type
    let key ← workerKey.gapAt? 2 ls
    let status ← number? (← workerStatus.gapAt? 7 ls)
    return { name := head.1, method, glob, answer := .fixture status schema key }
  else
    let name ← workerName.gapAt? 0 ls
    let status ← number? (← workerEmptyStatus.gapAt? 2 ls)
    return { name, method, glob, answer := .empty status }

/-! ### Mock classes -/

/-- The open places of a mock class. -/
def className : LineForm := ⟨"export class ", " \x7b"⟩
def classType : LineForm := ⟨"  private data: ", ";"⟩
def classGlob : LineForm := ⟨"  static readonly globPattern = ", ";"⟩
def classPattern : LineForm := ⟨"  static readonly pattern = /", "/;"⟩
def classKey : LineForm := ⟨"    this.data = structuredClone(fixtures.", ");"⟩
def classStatus : LineForm := ⟨"        status: ", ","⟩

/-- The mock class that the lines begin with. -/
def readClass? (ls : List String) : Option MockClass := do
  let name ← className.gapAt? 0 ls
  let schema ← typeName.gap? (← classType.gapAt? 1 ls)
  let glob ← literal? (← classGlob.gapAt? 4 ls)
  let pattern ← classPattern.gapAt? 7 ls
  let fixture ← classKey.gapAt? 10 ls
  let method ← Method.ofName? (← (methodCheck "      ").gapAt? 36 ls)
  let status ← number? (← classStatus.gapAt? 41 ls)
  return { name, method, glob, pattern, status, schema, fixture }

/-! ### Fixtures -/

/-- The line that the lines begin with, and the entries behind it. -/
def readEntries (ls : List String) : Option String × List String :=
  (ls.head?, ls.tail.takeWhile (begins "  "))

/-- The open places of an entry. -/
def entryKey : LineForm := ⟨"  ", ": "⟩
def entryType : LineForm := ⟨"types.", ";"⟩

/-- A fixture with the code of its value, from its entry in the table, which may have a comma
behind it, and its entry in the interface. -/
def readFixture? (entry type : String) : Option (Fixture × String) := do
  let parts := commonFront entry.toList type.toList
  let name ← entryKey.gap? (String.ofList parts.1)
  let schema ← entryType.gap? (String.ofList parts.2.2)
  return (⟨name, schema⟩, String.ofList (parts.2.1.rdropWhile (· == ',')))

/-- The fixtures of the table and the interface. -/
def readTable (ls : List String) : List (Option (Fixture × String)) :=
  match declared readEntries ls with
  | [(some "export const fixtures = \x7b", entries),
      (some "export interface Fixtures \x7b", types)] => List.zipWith readFixture? entries types
  | _ => []

variable {α : Type} {form : LineForm} {s t text front line : String}
  {ls more parts sources between : List String} {l k : List Char} {c d mark : Char}

/-! ## Laws of open places -/

theorem LineForm.gap?_eq (form : LineForm) (text : String) :
    form.gap? (form.before ++ text ++ form.behind) = some text := by
  have hfront : (form.before ++ text ++ form.behind).toList.dropPrefix? form.before.toList =
      some (text.toList ++ form.behind.toList) := by
    rw [String.toList_append, String.toList_append, List.append_assoc]
    exact List.dropPrefix?_append_of_beq _ (beq_self_eq_true _)
  have hback : (text.toList ++ form.behind.toList).dropSuffix? form.behind.toList =
      some text.toList :=
    List.dropSuffix?_eq_some_iff.mpr ⟨_, rfl, beq_self_eq_true _⟩
  rw [gap?, hfront]
  simp only [Option.bind_eq_bind, Option.bind_some, hback, Option.pure_def, String.ofList_toList]

/-- Nothing has to stand behind the place. -/
theorem LineForm.gap?_of_last (form : LineForm) (h : form.behind = "") :
    form.gap? (form.before ++ text) = some text := by
  have hline := form.gap?_eq text
  rwa [h, String.append_empty] at hline

theorem LineForm.gapAt?_eq {number : Nat}
    (h : ls[number]? = some (form.before ++ text ++ form.behind)) :
    form.gapAt? number ls = some text := by
  rw [gapAt?, h]
  exact form.gap?_eq text

theorem number?_toString (n : Nat) : number? (toString n) = some n := by
  have hdigits : (toString n).toList.all Char.isDigit = true :=
    List.all_eq_true.mpr fun _ => Naming.isDigit_of_mem_status
  rw [number?, if_pos hdigits, Naming.toList_toString_status, Nat.ofDigitChars_ten_toDigits]

theorem ofName?_name (m : Method) : Method.ofName? m.name = some m := by
  cases m <;> decide

theorem literal?_quote (s : String) : literal? (quote s) = some s := by
  have hchars : (quote s).toList = '\'' :: ((escapeQuoted s).toList ++ ['\'']) := by
    rw [quote, String.toList_append, String.toList_append]
    rfl
  rw [literal?, hchars]
  simp only [readTo_escapeQuoted s [], String.ofList_toList, unescaped_escapeQuoted]

/-- More of a text behind some front. -/
theorem exists_foldl_eq (between : List String) (text front : String) :
    ∃ rest, between.foldl (fun front s => front ++ s ++ text) front = front ++ rest ∧
      rest.length = (String.join between).length + between.length * text.length := by
  induction between generalizing front with
  | nil => exact ⟨"", by simp⟩
  | cons s between ih =>
      obtain ⟨rest, hfold, hlength⟩ := ih (front ++ s ++ text)
      refine ⟨s ++ text ++ rest, ?_, ?_⟩
      · rw [List.foldl_cons, hfold]
        simp only [String.append_assoc]
      · rw [String.length_append, String.length_append, hlength, String.join_cons,
          String.length_append, List.length_cons, Nat.succ_mul]
        omega

theorem repeated?_repeatWith (between : List String) (text : String) :
    repeated? between (repeatWith between text) = some text := by
  obtain ⟨rest, hrepeat, hlength⟩ := exists_foldl_eq between text text
  have htext : String.ofList ((repeatWith between text).toList.take
      (((repeatWith between text).length - (String.join between).length) /
        (between.length + 1))) = text := by
    have hshare : ((repeatWith between text).length - (String.join between).length) /
        (between.length + 1) = text.length := by
      rw [repeatWith, hrepeat, String.length_append, hlength]
      apply Nat.div_eq_of_eq_mul_left (Nat.succ_pos _)
      rw [Nat.mul_succ, Nat.mul_comm text.length]
      omega
    rw [hshare, repeatWith, hrepeat, String.toList_append, ← String.length_toList,
      List.take_left, String.ofList_toList]
  rw [repeated?]
  simp only [htext, if_true]

theorem upToMark_eq (hmark : mark ∉ s.toList) :
    upToMark mark (s ++ (String.ofList (mark :: l) ++ t)) =
      (s, String.ofList (mark :: l) ++ t) := by
  have hpass : ∀ c ∈ s.toList, (c != mark) = true := by
    intro c hc
    exact bne_iff_ne.mpr fun heq => hmark (heq ▸ hc)
  have hrest : (String.ofList (mark :: l) ++ t).toList = mark :: (l ++ t.toList) := by
    rw [String.toList_append, String.toList_ofList, List.cons_append]
  rw [upToMark, String.toList_append, List.takeWhile_append_of_pos hpass,
    List.dropWhile_append_of_pos hpass, hrest, List.takeWhile_cons_of_neg (by simp),
    List.dropWhile_cons_of_neg (by simp), List.append_nil, ← hrest, String.ofList_toList,
    String.ofList_toList]

theorem commonFront_eq (hne : c ≠ d) (s : List Char) :
    commonFront (s ++ c :: l) (s ++ d :: k) = (s, c :: l, d :: k) := by
  induction s with
  | nil => exact if_neg hne
  | cons a s ih =>
      rw [List.cons_append, List.cons_append, commonFront, if_pos rfl, ih]

/-! ## Laws of lines -/

theorem lines_append : lines (ls ++ more) = lines ls ++ lines more := by
  rw [lines, lines, lines, List.map_append, String.join_append]

theorem lines_cons : lines (line :: ls) = line ++ "\n" ++ lines ls := by
  rw [lines, lines, List.map_cons, String.join_cons]

theorem textLines_lines (h : ∀ line ∈ ls, '\n' ∉ line.toList) : textLines (lines ls) = ls := by
  have hsplit : (lines ls).toList.splitOn '\n' = ls.map String.toList ++ [[]] := by
    induction ls with
    | nil => rfl
    | cons line ls ih =>
        obtain ⟨hline, hls⟩ := List.forall_mem_cons.mp h
        have hchars : (lines (line :: ls)).toList = line.toList ++ '\n' :: (lines ls).toList := by
          rw [lines_cons, String.toList_append, String.toList_append, List.append_assoc]
          rfl
        have hbefore : ∀ c ∈ line.toList, (c == '\n') = false := by
          intro c hc
          exact beq_eq_false_iff_ne.mpr fun heq => hline (heq ▸ hc)
        rw [hchars, List.splitOn, List.splitOnP_append_cons_of_forall_mem hbefore _ (by rfl)]
        exact congrArg (line.toList :: ·) (ih hls)
  rw [textLines, hsplit, List.dropLast_concat, List.map_map]
  exact (List.map_congr_left fun line _ => String.ofList_toList).trans (List.map_id ls)

/-! ## Lines of the templates -/

/-- A text without line ends, if the parts have none. -/
def Unbroken (parts : List String) (text : String) : Prop :=
  (∀ part ∈ parts, '\n' ∉ part.toList) → '\n' ∉ text.toList

theorem Unbroken.fixed (h : '\n' ∉ l) : Unbroken parts (String.ofList l) := by
  intro _
  rwa [String.toList_ofList]

theorem Unbroken.part (h : s ∈ parts) : Unbroken parts s := fun hparts => hparts s h

theorem Unbroken.append (hs : Unbroken parts s) (ht : Unbroken parts t) :
    Unbroken parts (s ++ t) := by
  intro hparts
  rw [String.toList_append, List.mem_append]
  exact not_or.mpr ⟨hs hparts, ht hparts⟩

theorem Unbroken.quote (hs : Unbroken parts s) : Unbroken parts (quote s) := by
  have hescaped : Unbroken parts (escapeQuoted s) := by
    intro hparts hmem
    rw [escapeQuoted, String.toList_ofList, List.mem_flatMap] at hmem
    obtain ⟨c, hc, hmem⟩ := hmem
    unfold quotedChar at hmem
    split at hmem
    · rcases List.mem_cons.mp hmem with heq | hmem
      · cases heq
      · exact hs hparts (List.mem_singleton.mp hmem ▸ hc)
    · exact hs hparts (List.mem_singleton.mp hmem ▸ hc)
  exact ((fixed (by decide)).append hescaped).append (fixed (by decide))

theorem Unbroken.number (n : Nat) : Unbroken parts (toString n) := by
  intro _ hmem
  have hdigit := Naming.isDigit_of_mem_status hmem
  cases hdigit

theorem Unbroken.method (m : Method) : Unbroken parts m.name := by
  intro _
  cases m <;> decide

/-- A line with some characters in front, unbroken if the parts are. -/
structure Row (parts : List String) (front : List Char) (line : String) : Prop where
  opens : front <+: line.toList
  unbroken : Unbroken parts line

variable {opening : List Char}

theorem Row.fixed (h : opening <+: l ∧ '\n' ∉ l) : Row parts opening (String.ofList l) where
  opens := by
    rw [String.toList_ofList]
    exact h.1
  unbroken := .fixed h.2

theorem Row.append (h : Row parts opening s) (ht : Unbroken parts t) :
    Row parts opening (s ++ t) where
  opens := by
    rw [String.toList_append]
    exact h.opens.trans (List.prefix_append _ _)
  unbroken := h.unbroken.append ht

theorem Row.around (ht : Unbroken parts t) (h : (opening <+: l ∧ '\n' ∉ l) ∧ '\n' ∉ k) :
    Row parts opening (String.ofList l ++ t ++ String.ofList k) :=
  ((Row.fixed h.1).append ht).append (.fixed h.2)

/-! ## Reading line by line -/

/-- What lines begin with that neither import nor export. -/
def innerFronts : List Char := [' ', '/', ')', '}']

/-- What is read from some lines: their imports and their declarations. -/
structure Read (read : List String → α) (parts ls sources : List String) (xs : List α) :
    Prop where
  imported : imported ls = sources
  declared : declared read ls = xs
  unbroken : ∀ line ∈ ls, Unbroken parts line

variable {read : List String → α} {x : α} {xs : List α}

theorem Row.begins (h : Row parts front.toList line) : begins front line = true :=
  List.isPrefixOf_iff_prefix.mpr h.opens

/-- A line begins with one character only. -/
theorem Row.not_begins (h : Row parts (c :: l) line) (hfront : front.toList = d :: k)
    (hne : d ≠ c) : Emit.begins front line = false := by
  obtain ⟨rest, hrest⟩ := h.opens
  rw [Emit.begins, hfront, ← hrest]
  exact Bool.and_eq_false_imp.mpr fun heq => absurd (beq_iff_eq.mp heq) hne

namespace Read

theorem nil : Read read parts [] [] [] where
  imported := rfl
  declared := rfl
  unbroken := by simp

/-- A line that neither imports nor exports. -/
theorem pass (himport : begins "import " line = false) (hexport : begins "export " line = false)
    (hline : Unbroken parts line) (hmore : Read read parts more sources xs) :
    Read read parts (line :: more) sources xs where
  imported := by
    rw [Emit.imported, List.filter_cons_of_neg (by simp [himport])]
    exact hmore.imported
  declared := by
    rw [Emit.declared, hexport]
    exact hmore.declared
  unbroken := List.forall_mem_cons.mpr ⟨hline, hmore.unbroken⟩

theorem empty (hmore : Read read parts more sources xs) :
    Read read parts ("" :: more) sources xs :=
  hmore.pass (by decide) (by decide) (.fixed (l := []) (by decide))

theorem within (h : Row parts [c] line) (hc : c ∈ innerFronts)
    (hmore : Read read parts more sources xs) : Read read parts (line :: more) sources xs := by
  have hother : 'i' ≠ c ∧ 'e' ≠ c := by
    constructor <;> rintro rfl <;> exact absurd hc (by decide)
  exact hmore.pass (h.not_begins (l := []) (k := "mport ".toList) (by decide) hother.1)
    (h.not_begins (k := "xport ".toList) (by decide) hother.2) h.unbroken

/-- A line within a declaration. -/
theorem inner (h : Row parts [' '] line) (hmore : Read read parts more sources xs) :
    Read read parts (line :: more) sources xs :=
  hmore.within h (by decide)

/-- A line of a template within a declaration or a comment. -/
theorem skip (h : c ∈ innerFronts ∧ '\n' ∉ c :: l) (hmore : Read read parts more sources xs) :
    Read read parts (String.ofList (c :: l) :: more) sources xs :=
  hmore.within (.fixed ⟨List.prefix_append [c] l, h.2⟩) h.1

theorem imports (h : Row parts "import ".toList line) (hmore : Read read parts more sources xs) :
    Read read parts (line :: more) (line :: sources) xs where
  imported := by
    rw [Emit.imported, List.filter_cons_of_pos h.begins]
    exact congrArg (line :: ·) hmore.imported
  declared := by
    have hfront : "import ".toList = 'i' :: "mport ".toList := by decide
    have hexport : begins "export " line = false :=
      (hfront ▸ h).not_begins (d := 'e') (k := "xport ".toList) (by decide) (by decide)
    rw [Emit.declared, hexport]
    exact hmore.declared
  unbroken := List.forall_mem_cons.mpr ⟨h.unbroken, hmore.unbroken⟩

theorem exports (h : Row parts "export ".toList line) (hread : read (line :: more) = x)
    (hmore : Read read parts more sources xs) :
    Read read parts (line :: more) sources (x :: xs) where
  imported := by
    have hfront : "export ".toList = 'e' :: "xport ".toList := by decide
    have himport : begins "import " line = false :=
      (hfront ▸ h).not_begins (d := 'i') (k := "mport ".toList) (by decide) (by decide)
    rw [Emit.imported, List.filter_cons_of_neg (by simp [himport])]
    exact hmore.imported
  declared := by
    rw [Emit.declared, h.begins, if_pos rfl, hread, hmore.declared]
  unbroken := List.forall_mem_cons.mpr ⟨h.unbroken, hmore.unbroken⟩

/-- Imports in a row, with no others behind them. -/
theorem importLines (h : ∀ line ∈ ls, Row parts "import ".toList line)
    (hmore : Read read parts more [] xs) : Read read parts (ls ++ more) ls xs := by
  induction ls with
  | nil => exact hmore
  | cons line ls ih =>
      obtain ⟨hline, hls⟩ := List.forall_mem_cons.mp h
      exact (ih hls).imports hline

/-- Lines within a declaration in a row. -/
theorem inners (h : ∀ line ∈ ls, Row parts [' ', ' '] line)
    (hmore : Read read parts more sources xs) : Read read parts (ls ++ more) sources xs := by
  induction ls with
  | nil => exact hmore
  | cons line ls ih =>
      obtain ⟨hline, hls⟩ := List.forall_mem_cons.mp h
      exact (ih hls).inner ⟨(List.prefix_append [' '] [' ']).trans hline.opens, hline.unbroken⟩

/-- Declarations in a row: each is read in front of whatever comes behind it. -/
theorem exists_flatMap {β : Type} {asLines : β → List String} {p : α → β → Prop} {bs : List β}
    (h : ∀ b ∈ bs, ∀ more xs, Read read parts more [] xs →
      ∃ x, p x b ∧ Read read parts (asLines b ++ more) [] (x :: xs)) :
    ∃ xs, List.Forall₂ p xs bs ∧ Read read parts (bs.flatMap asLines) [] xs := by
  induction bs with
  | nil => exact ⟨[], .nil, .nil⟩
  | cons b bs ih =>
      obtain ⟨hb, hbs⟩ := List.forall_mem_cons.mp h
      obtain ⟨xs, hxs, hread⟩ := ih hbs
      obtain ⟨x, hx, hmore⟩ := hb _ _ hread
      exact ⟨x :: xs, .cons hx hxs, hmore⟩

/-- What follows from what is read holds of the lines of the text. -/
theorem linesOf {p : List String → Prop}
    (hp : ∀ ls, Emit.imported ls = sources → Emit.declared read ls = xs → p ls)
    (h : Read read parts ls sources xs) : LinesOf (lines ls) parts p :=
  ⟨ls, rfl, fun hparts => textLines_lines fun line hline => h.unbroken line hline hparts,
    hp ls h.imported h.declared⟩

end Read

end ApiMocks.Emit
