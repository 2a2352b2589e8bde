-- SUMMARY: Quoted texts are complete literals that read back as the text, also in printed imports.
import Unbundle.Module
import Unbundle.Script.Token.Lexer

/-!
# Quoting and reading back

The inside of a literal that `quote` writes is read piece by piece: what `quoteChar` writes for one
character is one step of `scanQuoted`, whatever follows (`scanQuoted_quoteChar`). By induction the
scanner reads the characters of the text and stops at the closing quote (`scanQuoted_quoted`). From
there the result goes up to the lexer and to printed import declarations (`quote_reads_back`).
-/

namespace Unbundle

namespace Script

-- ---------------------------------------------------------------------------
-- Literals
-- ---------------------------------------------------------------------------

/-- The character stands for itself between single quotes. -/
def isPlain (c : Char) : Bool :=
  c != '\\' && c != '\'' && !isLineTerminator c

/-- What may stand between the quotes of a literal: a quote or a backslash only after a backslash,
and no line terminator at all. -/
inductive Inside : List Char → Prop where
  | nil : Inside []
  | plain {c : Char} {rest : List Char} (hplain : isPlain c = true) (hrest : Inside rest) :
    Inside (c :: rest)
  | escaped {c : Char} {rest : List Char} (hline : isLineTerminator c = false)
    (hrest : Inside rest) : Inside ('\\' :: c :: rest)

namespace Inside

variable {text rest : List Char}

theorem append (h : Inside text) (hrest : Inside rest) : Inside (text ++ rest) := by
  induction h with
  | nil => exact hrest
  | plain hplain _ ih => exact .plain hplain ih
  | escaped hline _ ih => exact .escaped hline ih

theorem of_plain (h : text.all isPlain = true) : Inside text := by
  induction text with
  | nil => exact .nil
  | cons c text ih =>
    rw [List.all_cons, Bool.and_eq_true] at h
    exact .plain h.1 (ih h.2)

theorem isLineTerminator_eq_false (h : Inside text) : ∀ c ∈ text, isLineTerminator c = false := by
  induction h with
  | nil => simp
  | @plain c _ hplain _ ih =>
    have hline : isLineTerminator c = false := by
      simp only [isPlain, Bool.and_eq_true, Bool.not_eq_true'] at hplain
      exact hplain.2
    exact List.forall_mem_cons.2 ⟨hline, ih⟩
  | escaped hline _ ih =>
    exact List.forall_mem_cons.2 ⟨by decide, List.forall_mem_cons.2 ⟨hline, ih⟩⟩

end Inside

/-- A character is written as it is, or as an escape. -/
theorem quoteChar_cases (c : Char) :
    isPlain c = true ∧ quoteChar c = [c] ∨
      ∃ x rest, quoteChar c = '\\' :: x :: rest ∧ isLineTerminator x = false ∧
        rest.all isPlain = true := by
  unfold quoteChar
  split
  · exact .inr ⟨_, _, rfl, by decide, by decide⟩
  · exact .inr ⟨_, _, rfl, by decide, by decide⟩
  · exact .inr ⟨_, _, rfl, by decide, by decide⟩
  · exact .inr ⟨_, _, rfl, by decide, by decide⟩
  · exact .inr ⟨_, _, rfl, by decide, by decide⟩
  · exact .inr ⟨_, _, rfl, by decide, by decide⟩
  · rename_i hbackslash hquote hlf hcr hls hps
    refine .inl ⟨?_, rfl⟩
    simp only [isPlain, isLineTerminator, Bool.and_eq_true, bne_iff_ne, Bool.not_eq_true',
      Bool.or_eq_false_iff, beq_eq_false_iff_ne]
    exact ⟨⟨hbackslash, hquote⟩, ⟨⟨hlf, hcr⟩, hls⟩, hps⟩

theorem inside_quoteChar (c : Char) : Inside (quoteChar c) := by
  rcases quoteChar_cases c with ⟨hplain, heq⟩ | ⟨x, rest, heq, hline, hrest⟩
  · rw [heq]
    exact .plain hplain .nil
  · rw [heq]
    exact .escaped hline (.of_plain hrest)

/-- The inside of the literal for a text. -/
def quoted (value : List Char) : List Char :=
  value.flatMap quoteChar

@[simp] theorem quoted_nil : quoted [] = [] := rfl

@[simp] theorem quoted_cons (c : Char) (value : List Char) :
    quoted (c :: value) = quoteChar c ++ quoted value := rfl

theorem inside_quoted (value : List Char) : Inside (quoted value) := by
  induction value with
  | nil => exact .nil
  | cons c value ih => exact (inside_quoteChar c).append ih

theorem toList_quote (value : String) :
    (quote value).toList = '\'' :: (quoted value.toList ++ ['\'']) := by
  rw [quote, String.toList_ofList]
  rfl

theorem length_le_quoted (value : List Char) : value.length ≤ (quoted value).length := by
  induction value with
  | nil => exact Nat.le_refl _
  | cons c value ih =>
    have hc : 1 ≤ (quoteChar c).length := by
      rcases quoteChar_cases c with ⟨-, heq⟩ | ⟨x, rest, heq, -, -⟩ <;> simp [heq]
    rw [quoted_cons, List.length_cons, List.length_append]
    omega

-- ---------------------------------------------------------------------------
-- Reading the inside
-- ---------------------------------------------------------------------------

/-- What is written for a character is read as that character, whatever follows. -/
theorem scanQuoted_quoteChar (fuel : Nat) (c : Char) (text : List Char) :
    scanQuoted '\'' (fuel + 1) (quoteChar c ++ text) =
      (scanQuoted '\'' fuel text).prepend [c] (quoteChar c).length := by
  unfold quoteChar
  split
  -- The escapes are read by computation; each of them ends where `text` starts.
  · rfl
  · rfl
  · rfl
  · rfl
  · rfl
  · rfl
  · rename_i hbackslash hquote hlf hcr _ _
    rw [List.singleton_append, scanQuoted, if_neg (by simpa using hquote),
      if_neg (by simpa using ⟨hlf, hcr⟩), if_neg (by simpa using hbackslash)]
    rfl

/-- The scanner reads the text and stops at the closing quote. -/
theorem scanQuoted_quoted {value : List Char} {fuel : Nat} (hfuel : value.length < fuel)
    (rest : List Char) :
    scanQuoted '\'' fuel (quoted value ++ '\'' :: rest) =
      ⟨value, (quoted value).length + 1, true, none, none⟩ := by
  induction value generalizing fuel with
  | nil =>
    obtain ⟨fuel, rfl⟩ := Nat.exists_eq_add_one.2 hfuel
    rfl
  | cons c value ih =>
    obtain ⟨fuel, rfl⟩ := Nat.exists_eq_add_one.2 (Nat.zero_lt_of_lt hfuel)
    rw [quoted_cons, List.append_assoc, scanQuoted_quoteChar, ih (Nat.lt_of_succ_lt_succ hfuel)]
    simp [QuotedText.prepend, Nat.add_assoc]

/-- A quoted text is a complete literal that denotes the text. -/
theorem unquote?_quote (value : String) : unquote? (quote value) = some value := by
  have hscan : scanQuoted '\'' (quoted value.toList ++ ['\'']).length
      (quoted value.toList ++ ['\'']) =
        ⟨value.toList, (quoted value.toList).length + 1, true, none, none⟩ := by
    refine scanQuoted_quoted ?_ []
    rw [List.length_append, List.length_singleton]
    exact Nat.lt_succ_of_le (length_le_quoted _)
  simp only [unquote?, toList_quote, hscan]
  simp

/-- Distinct texts have distinct literals. -/
theorem quote_injective : Function.Injective quote := by
  intro value other h
  have hread := unquote?_quote value
  rw [h, unquote?_quote] at hread
  exact (Option.some.inj hread).symm

-- ---------------------------------------------------------------------------
-- Reading tokens
-- ---------------------------------------------------------------------------

/-- The cursor at this text, which starts at position `pos` of a source. -/
def Cursor.onText (text : List Char) (pos : Nat) : Cursor :=
  ⟨text, pos, text.length⟩

theorem Cursor.exists_skip (n : Nat) (text : List Char) (pos : Nat) :
    ∃ pos', (onText text pos).skip n = onText (text.drop n) pos' := by
  induction n generalizing text pos with
  | zero => exact ⟨pos, rfl⟩
  | succ n ih =>
    cases text with
    | nil =>
      have hskip := ih [] pos
      rw [List.drop_nil] at hskip ⊢
      exact hskip
    | cons c text => exact ih text (pos + c.utf8Size)

/-- A string token is scanned from its quote to the quote that closes it. -/
theorem scanStringToken_quote (strict : Bool) (value : String) (rest : List Char) (pos : Nat) :
    ∃ pos', scanStringToken strict '\'' (.onText ((quote value).toList ++ rest) pos) =
      ⟨.str (quote value) value, .onText rest pos', []⟩ := by
  have hinside : (quote value).toList ++ rest = '\'' :: (quoted value.toList ++ '\'' :: rest) := by
    simp [toList_quote]
  have hscan : scanQuoted '\'' (quoted value.toList ++ '\'' :: rest).length
      (quoted value.toList ++ '\'' :: rest) =
        ⟨value.toList, (quoted value.toList).length + 1, true, none, none⟩ := by
    refine scanQuoted_quoted ?_ rest
    have := length_le_quoted value.toList
    rw [List.length_append, List.length_cons]
    omega
  obtain ⟨pos', hskip⟩ := Cursor.exists_skip ((quoted value.toList).length + 1)
    (quoted value.toList ++ '\'' :: rest) (pos + '\''.utf8Size)
  have hdrop : (quoted value.toList ++ '\'' :: rest).drop ((quoted value.toList).length + 1) =
      rest := by
    simp
  rw [hdrop] at hskip
  have hraw : (Cursor.onText ((quote value).toList ++ rest) pos).textTo (.onText rest pos') =
      quote value := by
    simp [Cursor.textTo, Cursor.onText]
  have hnext : (Cursor.onText ((quote value).toList ++ rest) pos).next =
      .onText (quoted value.toList ++ '\'' :: rest) (pos + '\''.utf8Size) := by
    rw [hinside]
    rfl
  refine ⟨pos', ?_⟩
  simp only [scanStringToken, hnext]
  simp only [Cursor.onText] at hscan hskip hraw ⊢
  simp only [hscan, hskip, hraw, String.ofList_toList]
  rfl

/-- The lexer reads a quoted text as one string token, whatever follows. -/
theorem read_quote (ctx : WordContext) (value : String) (rest : List Char) (pos : Nat)
    (newline : Bool) :
    ∃ pos', Lexeme.read ctx (.onText ((quote value).toList ++ rest) pos) newline =
      ⟨.str (quote value) value, ⟨pos, pos'⟩, newline, .onText ((quote value).toList ++ rest) pos,
        .onText rest pos', []⟩ := by
  obtain ⟨pos', htoken⟩ := scanStringToken_quote ctx.strict value rest pos
  have hskip : skipBlank .code ((quote value).toList ++ rest) 0 newline = ⟨0, newline, none⟩ := by
    rw [toList_quote]
    rfl
  have hscan : scanToken ctx (.onText ((quote value).toList ++ rest) pos) =
      scanStringToken ctx.strict '\'' (.onText ((quote value).toList ++ rest) pos) := by
    rw [toList_quote]
    rfl
  refine ⟨pos', ?_⟩
  unfold Lexeme.read
  rw [show (Cursor.onText ((quote value).toList ++ rest) pos).chars =
    (quote value).toList ++ rest from rfl, hskip]
  simp only [Cursor.skip, hscan, htoken]
  rfl

end Script

-- ---------------------------------------------------------------------------
-- Printed imports
-- ---------------------------------------------------------------------------

namespace Text

/-- The texts of a layout, without its line ends and indentation. -/
def Layout.flat : Layout → List Char
  | [] => []
  | .text s :: rest => s.toList ++ flat rest
  | _ :: rest => flat rest

theorem Layout.flat_append (l rest : Layout) : flat (l ++ rest) = flat l ++ flat rest := by
  induction l with
  | nil => rfl
  | cons piece l ih =>
    cases piece with
    | text s => simp [flat, ih]
    | line | indent | dedent => exact ih

namespace Pen

/-- Within a line, texts are written as they are. -/
theorem foldl_write_texts {l : Layout} (h : ∀ piece ∈ l, ∃ s, piece = .text s) (written : String)
    (level : Nat) :
    l.foldl write ⟨written, level, false⟩ = ⟨written ++ String.ofList l.flat, level, false⟩ := by
  induction l generalizing written with
  | nil => simp [Layout.flat]
  | cons piece l ih =>
    rw [List.forall_mem_cons] at h
    obtain ⟨⟨s, rfl⟩, hrest⟩ := h
    have hwrite : write ⟨written, level, false⟩ (.text s) = ⟨written ++ s, level, false⟩ := by
      unfold write
      by_cases hs : s.isEmpty
      · simp [String.isEmpty_iff.1 hs]
      · simp [hs]
    rw [List.foldl_cons, hwrite, ih hrest, Layout.flat]
    simp [String.append_assoc]

/-- The pen after something else has been written before. -/
def behind (front : String) (p : Pen) : Pen :=
  { p with written := front ++ p.written }

theorem write_behind (front : String) (p : Pen) (piece : Piece) :
    (p.behind front).write piece = (p.write piece).behind front := by
  cases piece with
  | text s =>
    by_cases hs : s.isEmpty
    · simp [write, hs]
    · simp only [write, behind, hs, Bool.false_eq_true, if_false, String.append_assoc]
      rfl
  | line =>
    by_cases hp : p.lineStart
    · simp only [write, behind, hp, if_true]
    · simp only [write, behind, hp, Bool.false_eq_true, if_false, ← String.append_singleton,
        String.append_assoc]
  | indent => rfl
  | dedent => rfl

/-- What has been written stays in front of what is written. -/
theorem foldl_write_behind (front : String) (p : Pen) (l : Layout) :
    l.foldl write (p.behind front) = (l.foldl write p).behind front := by
  induction l generalizing p with
  | nil => rfl
  | cons piece l ih => rw [List.foldl_cons, List.foldl_cons, write_behind, ih]

end Pen
end Text

namespace Import

open Text

theorem push_ofList (written s : String) (text : List Char) (c : Char) :
    (written ++ s ++ String.ofList text).push c =
      written ++ String.ofList (s.toList ++ text ++ [c]) := by
  apply String.toList_injective
  simp

theorem clause_texts (i : Import) : ∀ piece ∈ i.clause, ∃ s, piece = .text s := by
  unfold clause
  split <;> simp

/-- What is printed of an import before its source. -/
def opening (i : Import) : List Char :=
  "import ".toList ++ i.clause.flat

/-- The line that is printed for an import. -/
def declaration (i : Import) : List Char :=
  i.opening ++ (Script.quote i.source).toList ++ ";\n".toList

/-- At the start of a line that is not indented, an import is printed as its line. -/
theorem foldl_write_layout (i : Import) (written : String) :
    i.layout.foldl Pen.write ⟨written, 0, true⟩ =
      ⟨written ++ String.ofList i.declaration, 0, true⟩ := by
  have hstart : Pen.write ⟨written, 0, true⟩ (.text "import ") =
      ⟨written ++ "import ", 0, false⟩ := by
    change (⟨written ++ "" ++ "import ", 0, false⟩ : Pen) = _
    rw [String.append_empty]
  have htexts : ∀ piece ∈ i.clause ++ [.text (Script.quote i.source), .text ";"],
      ∃ s, piece = .text s := by
    refine List.forall_mem_append.2 ⟨i.clause_texts, ?_⟩
    simp
  have hflat : Layout.flat (i.clause ++ [.text (Script.quote i.source), .text ";"]) =
      i.clause.flat ++ (Script.quote i.source).toList ++ [';'] := by
    rw [Layout.flat_append, List.append_assoc]
    rfl
  have hsplit : i.layout =
      .text "import " :: (i.clause ++ [.text (Script.quote i.source), .text ";"]) ++ [.line] := by
    simp [layout]
  rw [hsplit, List.cons_append, List.foldl_cons, hstart, List.foldl_append,
    Pen.foldl_write_texts htexts, hflat]
  have hdeclaration : i.declaration =
      "import ".toList ++ (i.clause.flat ++ (Script.quote i.source).toList ++ [';']) ++ ['\n'] := by
    rw [declaration, show i.opening = "import ".toList ++ i.clause.flat from rfl,
      show ";\n".toList = [';'] ++ ['\n'] from rfl]
    simp only [List.append_assoc]
  rw [hdeclaration, ← push_ofList]
  rfl

end Import

namespace Module

open Text

/-- A module of code is printed as the lines of its imports, and then its statements. -/
theorem toList_printCode (imports : List Import) (body : List Script.Stmt) :
    (printCode imports body).toList =
      imports.flatMap Import.declaration ++
        (Layout.render (Script.stmtLayouts body).flatten).toList := by
  have himports : ∀ written : String,
      (imports.map Import.layout).flatten.foldl Pen.write ⟨written, 0, true⟩ =
        ⟨written ++ String.ofList (imports.flatMap Import.declaration), 0, true⟩ := by
    induction imports with
    | nil => simp
    | cons i rest ih =>
      intro written
      rw [List.map_cons, List.flatten_cons, List.foldl_append, Import.foldl_write_layout, ih,
        List.flatMap_cons, String.ofList_append, String.append_assoc]
  rw [printCode, Layout.render, List.foldl_append, Pen.start, himports,
    show (⟨"" ++ String.ofList (imports.flatMap Import.declaration), 0, true⟩ : Pen) =
      Pen.start.behind (String.ofList (imports.flatMap Import.declaration)) from ?_,
    Pen.foldl_write_behind]
  · simp [Pen.behind, Layout.render]
  · simp [Pen.behind, Pen.start]

end Module

/-- A quoted text is one complete literal: between its quotes, a quote or a backslash stands only
after a backslash, and a line terminator nowhere. It denotes the text: the lexer reads it as one token
with that value, without complaint and whatever follows. So distinct texts have distinct literals, and
the source of every import is read back from the line that is printed for it. -/
theorem quote_reads_back :
    (∀ value : String, ∃ inside,
      (Script.quote value).toList = '\'' :: (inside ++ ['\'']) ∧ Script.Inside inside ∧
        (∀ c ∈ inside, Script.isLineTerminator c = false) ∧
        Script.unquote? (Script.quote value) = some value ∧
        ∀ (ctx : Script.WordContext) (rest : List Char) (pos : Nat) (newline : Bool), ∃ pos',
          Script.Lexeme.read ctx (.onText ((Script.quote value).toList ++ rest) pos) newline =
            ⟨.str (Script.quote value) value, ⟨pos, pos'⟩, newline,
              .onText ((Script.quote value).toList ++ rest) pos, .onText rest pos', []⟩) ∧
      Function.Injective Script.quote ∧
      ∀ (before : List Import) (i : Import) (after : List Import) (body : List Script.Stmt),
        ∃ rest,
          (Module.printCode (before ++ i :: after) body).toList =
            before.flatMap Import.declaration ++ i.opening ++
              ((Script.quote i.source).toList ++ rest) ∧
            ∀ (ctx : Script.WordContext) (pos : Nat) (newline : Bool),
              (Script.Lexeme.read ctx (.onText ((Script.quote i.source).toList ++ rest) pos)
                newline).token = .str (Script.quote i.source) i.source := by
  refine ⟨fun value => ?_, Script.quote_injective, fun before i after body => ?_⟩
  · have hinside := Script.inside_quoted value.toList
    exact ⟨Script.quoted value.toList, Script.toList_quote value, hinside,
      hinside.isLineTerminator_eq_false, Script.unquote?_quote value,
      fun ctx rest pos newline => Script.read_quote ctx value rest pos newline⟩
  · refine ⟨";\n".toList ++ (after.flatMap Import.declaration ++
      (Text.Layout.render (Script.stmtLayouts body).flatten).toList), ?_, ?_⟩
    · rw [Module.toList_printCode, List.flatMap_append, List.flatMap_cons, Import.declaration]
      simp only [List.append_assoc]
    · intro ctx pos newline
      obtain ⟨pos', hread⟩ := Script.read_quote ctx i.source _ pos newline
      rw [hread]

end Unbundle
