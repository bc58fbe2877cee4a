import Rollup.Proofs.Text.Numerals
import Rollup.Storage.TimeSeries
import Mathlib.Data.List.Forall2

/-!
Commands read back. A reader that knows quotes and backslashes cuts a command into statements and
these into lexemes; whatever the names and ids, it finds one statement for each requested metric,
with these names and ids as quoted lexemes. Main statement: `command_reads_back`.
-/
namespace Rollup.TimeSeries

/-- Where a reader stands: outside of quotes, inside quotes of one kind, or behind a backslash
there. -/
inductive Place
  | plain
  | quoted (mark : Char)
  | escaped (mark : Char)
deriving DecidableEq, Repr

def isQuote (c : Char) : Bool :=
  c = '"' || c = '\x27'

/-- A quote opens a token, a backslash makes the next character literal, and the same quote closes
the token. -/
def Place.next : Place → Char → Place
  | plain, c => if isQuote c then quoted c else plain
  | quoted mark, c => if c = '\\' then escaped mark else if c = mark then plain else quoted mark
  | escaped mark, _ => quoted mark

/-- The text before the first semicolon outside of quotes and the pieces that follow it. -/
def splitFrom (place : Place) : List Char → List Char × List (List Char)
  | [] => ([], [])
  | c :: rest =>
    let (first, others) := splitFrom (place.next c) rest
    if place = .plain ∧ c = ';' then ([], first :: others) else (c :: first, others)

def pieces (command : List Char) : List (List Char) :=
  (splitFrom .plain command).1 :: (splitFrom .plain command).2

/-- A word outside of quotes, or the text that a quoted token stands for. -/
inductive Lexeme
  | word (text : String)
  | quoted (mark : Char) (text : String)
deriving DecidableEq, Repr

def wordOf (letters : List Char) : List Lexeme :=
  if letters = [] then [] else [.word (String.ofList letters)]

/-- The lexemes of a text, with the letters of the lexeme in hand. Blanks and quotes end a word; a
text that ends inside quotes has no lexemes. -/
def lexFrom (place : Place) (letters : List Char) : List Char → Option (List Lexeme)
  | [] => if place = .plain then some (wordOf letters) else none
  | c :: rest =>
    match place with
    | .plain =>
      if isQuote c then (lexFrom (.quoted c) [] rest).map (wordOf letters ++ ·)
      else if c = ' ' then (lexFrom .plain [] rest).map (wordOf letters ++ ·)
      else lexFrom .plain (letters ++ [c]) rest
    | .quoted mark =>
      if c = '\\' then lexFrom (.escaped mark) letters rest
      else if c = mark then
        (lexFrom .plain [] rest).map (.quoted mark (String.ofList letters) :: ·)
      else lexFrom (.quoted mark) (letters ++ [c]) rest
    | .escaped mark => lexFrom (.quoted mark) (letters ++ [c]) rest

def lex (statement : List Char) : Option (List Lexeme) :=
  lexFrom .plain [] statement

/-- Escaping the backslashes and then the quotes puts one backslash before each of them. -/
theorem escape_escape {mark : Char} (h : mark ≠ '\\') (text : List Char) :
    escape mark (escape '\\' text) =
      text.flatMap fun c => if c = '\\' ∨ c = mark then ['\\', c] else [c] := by
  induction text with
  | nil => rfl
  | cons c text ih =>
    rw [escape, escape] at ih ⊢
    rw [List.flatMap_cons, List.flatMap_append, ih, List.flatMap_cons]
    by_cases slash : c = '\\'
    · simp [slash, Ne.symm h]
    · by_cases same : c = mark
      · simp [same, h]
      · simp [slash, same]

theorem lexFrom_escaped {mark : Char} (h : mark ≠ '\\') (letters text rest : List Char) :
    lexFrom (.quoted mark) letters (escape mark (escape '\\' text) ++ rest) =
      lexFrom (.quoted mark) (letters ++ text) rest := by
  rw [escape_escape h]
  induction text generalizing letters with
  | nil => rw [List.flatMap_nil, List.nil_append, List.append_nil]
  | cons c text ih =>
    rw [List.flatMap_cons, List.append_cons letters c text, ← ih (letters ++ [c])]
    by_cases guarded : c = '\\' ∨ c = mark
    · rw [if_pos guarded]
      rfl
    · rw [if_neg guarded]
      obtain ⟨slash, different⟩ := not_or.1 guarded
      simp only [List.cons_append, List.nil_append, lexFrom, if_neg slash, if_neg different]

/-- No piece of a command ends inside a text that is read from one place to another. -/
def Whole (place after : Place) (text : List Char) : Prop :=
  ∀ rest, splitFrom place (text ++ rest) =
    (text ++ (splitFrom after rest).1, (splitFrom after rest).2)

theorem Whole.append {place middle after : Place} {text more : List Char}
    (first : Whole place middle text) (second : Whole middle after more) :
    Whole place after (text ++ more) := by
  intro rest
  rw [List.append_assoc, first, second, List.append_assoc]

theorem whole_cons {place after : Place} {c : Char} {text : List Char}
    (inside : ¬ (place = .plain ∧ c = ';')) (whole : Whole (place.next c) after text) :
    Whole place after (c :: text) := by
  intro rest
  rw [List.cons_append, splitFrom, whole]
  exact if_neg inside

theorem whole_plain {text : List Char} (h : ∀ c ∈ text, isQuote c = false ∧ c ≠ ';') :
    Whole .plain .plain text := by
  induction text with
  | nil => exact fun _ => rfl
  | cons c text ih =>
    obtain ⟨unquoted, different⟩ := h c List.mem_cons_self
    have later := ih fun d mem => h d (List.mem_cons_of_mem _ mem)
    refine whole_cons (fun cut => different cut.2) ?_
    rwa [Place.next, unquoted]

theorem whole_escaped {mark : Char} (h : mark ≠ '\\') (text : List Char) :
    Whole (.quoted mark) (.quoted mark) (escape mark (escape '\\' text)) := by
  rw [escape_escape h]
  induction text with
  | nil => exact fun _ => rfl
  | cons c text ih =>
    rw [List.flatMap_cons]
    refine Whole.append ?_ ih
    by_cases guarded : c = '\\' ∨ c = mark
    · rw [if_pos guarded]
      exact whole_cons nofun (whole_cons nofun fun _ => rfl)
    · rw [if_neg guarded]
      obtain ⟨slash, different⟩ := not_or.1 guarded
      refine whole_cons nofun ?_
      rw [Place.next, if_neg slash, if_neg different]
      exact fun _ => rfl

/-- A text that is cut nowhere and has these lexemes, whatever follows it. -/
structure Reads (text : List Char) (lexemes : List Lexeme) : Prop where
  whole : Whole .plain .plain text
  lexed : ∀ rest, lexFrom .plain [] (text ++ rest) = (lexFrom .plain [] rest).map (lexemes ++ ·)

theorem Reads.append {text more : List Char} {lexemes others : List Lexeme}
    (first : Reads text lexemes) (second : Reads more others) :
    Reads (text ++ more) (lexemes ++ others) := by
  refine ⟨first.whole.append second.whole, fun rest => ?_⟩
  rw [List.append_assoc, first.lexed, second.lexed, Option.map_map]
  simp only [Function.comp_def, List.append_assoc]

def isWordChar (c : Char) : Bool :=
  !isQuote c && c ≠ ' ' && c ≠ ';'

theorem whole_word {word : List Char} (h : word.all isWordChar = true) :
    Whole .plain .plain word := by
  refine whole_plain fun c mem => ?_
  have plain := List.all_eq_true.1 h c mem
  simp only [isWordChar, Bool.and_eq_true, Bool.not_eq_true', decide_eq_true_eq] at plain
  exact ⟨plain.1.1, plain.2⟩

theorem lexFrom_word {word : List Char} (h : word.all isWordChar = true)
    (letters rest : List Char) :
    lexFrom .plain letters (word ++ rest) = lexFrom .plain (letters ++ word) rest := by
  induction word generalizing letters with
  | nil => rw [List.nil_append, List.append_nil]
  | cons c word ih =>
    rw [List.all_cons, Bool.and_eq_true] at h
    obtain ⟨plain, later⟩ := h
    simp only [isWordChar, Bool.and_eq_true, Bool.not_eq_true', decide_eq_true_eq] at plain
    rw [List.append_cons letters c word, ← ih later]
    simp [lexFrom, plain.1.1, plain.1.2]

theorem reads_word (word : List Char) (h : word.all isWordChar = true) :
    Reads (word ++ [' ']) (wordOf word) := by
  refine ⟨(whole_word h).append (whole_plain (by simp [isQuote])), fun rest => ?_⟩
  rw [List.append_assoc, lexFrom_word h]
  rfl

theorem reads_quote (word : List Char) (h : word.all isWordChar = true) {mark : Char}
    (isMark : isQuote mark = true) (text : String) :
    Reads (word ++ quote mark text) (wordOf word ++ [.quoted mark text]) := by
  have slash : mark ≠ '\\' := by
    rintro rfl
    exact absurd isMark (by decide)
  have semicolon : mark ≠ ';' := by
    rintro rfl
    exact absurd isMark (by decide)
  refine ⟨(whole_word h).append ?_, fun rest => ?_⟩
  · rw [quote]
    refine whole_cons (fun cut => semicolon cut.2) ?_
    rw [Place.next, if_pos isMark]
    refine (whole_escaped slash text.toList).append (whole_cons nofun ?_)
    rw [Place.next, if_neg slash, if_pos rfl]
    exact fun _ => rfl
  · rw [quote, List.append_assoc, lexFrom_word h, List.nil_append, List.cons_append,
      List.cons_append, List.append_assoc, lexFrom]
    simp only [isMark, if_true, lexFrom_escaped slash, List.nil_append, List.cons_append, lexFrom,
      if_neg slash, Option.map_map]
    simp [Function.comp_def]

theorem reads_words (words : List String)
    (h : ∀ word ∈ words, word ≠ "" ∧ word.toList.all isWordChar = true) :
    Reads (words.flatMap (·.toList ++ [' '])) (words.map .word) := by
  induction words with
  | nil => exact ⟨fun _ => rfl, fun rest => by simp⟩
  | cons word words ih =>
    obtain ⟨some, plain⟩ := h word List.mem_cons_self
    have first := reads_word _ plain
    rw [wordOf, if_neg (by simpa using some), String.ofList_toList] at first
    exact first.append (ih fun other mem => h other (List.mem_cons_of_mem _ mem))

theorem reads_equals : Reads " = ".toList [.word "="] :=
  (reads_word [] rfl).append (reads_words ["="] (by decide))

theorem isWordChar_of_isNumeralChar {c : Char} (h : Numeral.IsNumeralChar c) :
    isWordChar c = true := by
  have double : c ≠ '"' := h.ne (by decide)
  have single : c ≠ '\x27' := h.ne (by decide)
  have blank : c ≠ ' ' := h.ne (by decide)
  have semicolon : c ≠ ';' := h.ne (by decide)
  simp [isWordChar, isQuote, double, single, blank, semicolon]

theorem write_isWord (n : Int) : (Numeral.write n).all isWordChar = true :=
  List.all_eq_true.2 fun _ mem =>
    isWordChar_of_isNumeralChar (Numeral.isNumeralChar_of_mem_write mem)

theorem wordOf_write (n : Int) : wordOf (Numeral.write n) = [.word (Numeral.render n)] := by
  rw [wordOf, if_neg (Numeral.write_ne_nil n), Numeral.render]

def lexemes (database measurement : String) (scope : Scope) (bucket : Int64) : List Lexeme :=
  [.word "SELECT", .word "*", .word "FROM", .quoted '"' database, .word "..",
    .quoted '"' measurement, .word "WHERE", .quoted '"' "time_bucket", .word "=",
    .word (Numeral.render bucket.toInt)] ++
  if scope.id = "" then []
  else [.word "AND", .quoted '"' (if scope.isService then "entity_id" else "service_id"),
    .word "=", .quoted '\x27' scope.id]

def selection (database measurement : String) : List Char :=
  "SELECT * FROM ".toList ++ identifier database ++ ("..".toList ++ identifier measurement) ++
    " WHERE ".toList ++ identifier keyColumns.bucket ++ " = ".toList

theorem reads_selection (database measurement : String) :
    Reads (selection database measurement)
      [.word "SELECT", .word "*", .word "FROM", .quoted '"' database, .word "..",
        .quoted '"' measurement, .word "WHERE", .quoted '"' "time_bucket", .word "="] := by
  have select : Reads "SELECT * FROM ".toList [.word "SELECT", .word "*", .word "FROM"] :=
    reads_words ["SELECT", "*", "FROM"] (by decide)
  have source : Reads (identifier database) [.quoted '"' database] :=
    reads_quote [] rfl rfl database
  have target : Reads ("..".toList ++ identifier measurement)
      [.word "..", .quoted '"' measurement] :=
    reads_quote ['.', '.'] rfl rfl measurement
  have condition : Reads " WHERE ".toList [.word "WHERE"] :=
    (reads_word [] rfl).append (reads_words ["WHERE"] (by decide))
  have column : Reads (identifier keyColumns.bucket) [.quoted '"' "time_bucket"] :=
    reads_quote [] rfl rfl _
  exact ((((select.append source).append target).append condition).append column).append
    reads_equals

theorem reads_restriction (field id : String) (bucket : Int64) :
    Reads (Numeral.write bucket.toInt ++ " AND ".toList ++ identifier field ++ " = ".toList ++
        literal id)
      [.word (Numeral.render bucket.toInt), .word "AND", .quoted '"' field, .word "=",
        .quoted '\x27' id] := by
  have number := reads_word _ (write_isWord bucket.toInt)
  rw [wordOf_write] at number
  have conjunction : Reads "AND ".toList [.word "AND"] := reads_words ["AND"] (by decide)
  have field : Reads (identifier field) [.quoted '"' field] :=
    reads_quote [] rfl rfl field
  have id : Reads (literal id) [.quoted '\x27' id] := reads_quote [] rfl rfl id
  have spaced : " AND ".toList = [' '] ++ "AND ".toList := rfl
  rw [spaced, ← List.append_assoc (Numeral.write _)]
  exact (((number.append conjunction).append field).append reads_equals).append id

/-- A statement is cut nowhere and has its lexemes. -/
theorem lex_statement (database measurement : String) (scope : Scope) (bucket : Int64) :
    Whole .plain .plain (statement database measurement scope bucket) ∧
      lex (statement database measurement scope bucket) =
        some (lexemes database measurement scope bucket) := by
  have start := reads_selection database measurement
  by_cases unrestricted : scope.id = ""
  · have number := write_isWord bucket.toInt
    have text : statement database measurement scope bucket =
        selection database measurement ++ Numeral.write bucket.toInt := by
      unfold statement selection
      simp only [Scope.filter?, if_pos unrestricted, List.append_nil, List.append_assoc]
    have last : lexFrom .plain [] (Numeral.write bucket.toInt) =
        some [.word (Numeral.render bucket.toInt)] := by
      rw [← List.append_nil (Numeral.write bucket.toInt), lexFrom_word number, List.nil_append,
        lexFrom, if_pos rfl, wordOf_write]
    rw [text, lexemes, if_pos unrestricted]
    refine ⟨start.whole.append (whole_word number), ?_⟩
    rw [lex, start.lexed, last]
    rfl
  · have reads := start.append (reads_restriction
      (if scope.isService then keyColumns.entity else keyColumns.service) scope.id bucket)
    have text : statement database measurement scope bucket =
        selection database measurement ++ (Numeral.write bucket.toInt ++ " AND ".toList ++
          identifier (if scope.isService then keyColumns.entity else keyColumns.service) ++
          " = ".toList ++ literal scope.id) := by
      unfold statement selection
      simp only [Scope.filter?, if_neg unrestricted, List.append_assoc]
    rw [text, lexemes, if_neg unrestricted]
    refine ⟨reads.whole, ?_⟩
    have lexed := reads.lexed []
    rw [List.append_nil] at lexed
    rw [lex, lexed]
    rfl

/-- A semicolon behind each text that is cut nowhere separates these texts; the last piece is
empty. -/
theorem pieces_flatMap {texts : List (List Char)}
    (whole : ∀ text ∈ texts, Whole .plain .plain text) :
    pieces (texts.flatMap (· ++ [';'])) = texts ++ [[]] := by
  induction texts with
  | nil => rfl
  | cons text texts ih =>
    have later := ih fun other mem => whole other (List.mem_cons_of_mem _ mem)
    have cut : splitFrom .plain (';' :: texts.flatMap (· ++ [';'])) =
        ([], pieces (texts.flatMap (· ++ [';']))) := rfl
    rw [List.flatMap_cons, List.append_assoc, List.singleton_append, pieces,
      whole text List.mem_cons_self, cut, later, List.append_nil, List.cons_append]

/-- The adapter sends one command. Cut at the semicolons outside of quotes it consists of one
statement for each requested name, in order, and nothing else; each has the lexemes of a selection
from the measurement of its name, whatever the strings are. -/
theorem command_reads_back (adapter : Adapter) (request : Request) (bucket : Int64)
    (sent : List String) :
    ∃ (text : String) (statements : List (List Char)),
      (adapter.read request bucket sent).2 = text :: sent ∧
      pieces text.toList = statements ++ [[]] ∧
      List.Forall₂ (fun name statement => lex statement =
        some (lexemes adapter.database (adapter.client.format name) request.scope bucket))
        request.names statements := by
  let write (name : String) : List Char :=
    statement adapter.database (adapter.client.format name) request.scope bucket
  refine ⟨_, request.names.map write, rfl, ?_, ?_⟩
  · have whole : ∀ text ∈ request.names.map write, Whole .plain .plain text := by
      intro text mem
      obtain ⟨name, -, rfl⟩ := List.mem_map.1 mem
      exact (lex_statement _ _ _ _).1
    rw [command, String.toList_ofList, ← pieces_flatMap whole, List.flatMap_map, List.flatMap_map]
  · rw [List.forall₂_map_right_iff, List.forall₂_same]
    exact fun name _ => (lex_statement _ _ _ _).2

example : pieces (literal "it\x27s; \\" ++ [';']) = [literal "it\x27s; \\", []] ∧
    lex (literal "it\x27s; \\") = some [.quoted '\x27' "it\x27s; \\"] := by decide

end Rollup.TimeSeries
