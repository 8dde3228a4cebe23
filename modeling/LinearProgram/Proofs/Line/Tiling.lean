import LinearProgram.Formulation.Normal
import LinearProgram.Proofs.Line.Finds

namespace LinearProgram

/-!
# No character of a line is lost

The lexemes of a line stand side by side, with nothing but blanks between them
(`tokensFrom_tiles`). So the tokens lie in order on character boundaries of the
line, each with the text between its boundaries, and together they hold all that
is not blank: their texts make up the normal form of the line
(`tokenize_lossless`).
-/

/-- The length of a text in bytes is that of its characters. -/
theorem utf8ByteSize_ofList (text : List Char) :
    (String.ofList text).utf8ByteSize = byteLength text := by
  induction text with
  | nil =>
      rfl
  | cons first rest inductionHypothesis =>
      rw [← List.singleton_append, String.ofList_append, String.utf8ByteSize_append,
        inductionHypothesis, ← String.singleton_eq_ofList, String.utf8ByteSize_singleton,
        List.singleton_append, byteLength]

theorem byteLength_pos
    {text : List Char}
    (nonempty : text ≠ []) :
    0 < byteLength text := by
  obtain ⟨first, rest, rfl⟩ := List.exists_cons_of_ne_nil nonempty
  rw [byteLength]
  exact Nat.lt_of_lt_of_le first.utf8Size_pos (Nat.le_add_right _ _)

namespace Lexeme

/-- No character inside a lexeme is blank. -/
theorem Interior.filled
    {lexeme : Lexeme}
    {offset : Nat}
    {character : Char}
    {behind : List Char}
    (interior : Interior lexeme offset character behind) :
    Text.isBlank character = false := by
  cases interior with
  | equal isRelation only symbol =>
      subst symbol
      rfl
  | digit digit =>
      exact Text.isBlank_of_isDigit digit
  | letter letter noVariable noDirection =>
      rcases letter with alphabetic | rfl
      · exact Text.isBlank_of_isAlphabetic alphabetic
      · rfl
  | keyword letter noDirection last =>
      rcases letter with alphabetic | rfl
      · exact Text.isBlank_of_isAlphabetic alphabetic
      · rfl

/-- A lexeme holds no blanks. -/
theorem filled_lexeme
    {first : Char}
    (filled : Text.isBlank first = false)
    (rest : List Char) :
    ∀ character ∈ first :: rest.take (ofChars first rest).extra,
      Text.isBlank character = false := by
  rw [List.forall_mem_cons]
  refine ⟨filled, ?_⟩
  intro character member
  obtain ⟨offset, within, isCharacter⟩ := List.mem_take_iff_getElem.mp member
  have isInterior : offset < (ofChars first rest).extra := by
    omega
  obtain ⟨found, behind, shape, interior⟩ := interior_ofChars isInterior
  rw [List.drop_eq_getElem_cons (by omega), List.cons_eq_cons, isCharacter] at shape
  obtain ⟨rfl, _⟩ := shape
  exact interior.filled

end Lexeme

/--
Tokens stand for stretches without blanks that lie side by side in a text, given
the text before it, with only blanks between them.
-/
inductive Tiles : List Char → List Char → List Token → Prop where
  | finish (before : List Char) : Tiles before [] []
  | blank
      {before rest : List Char}
      {first : Char}
      {tokens : List Token}
      (blank : Text.isBlank first)
      (behind : Tiles (before ++ [first]) rest tokens) :
      Tiles before (first :: rest) tokens
  | tile
      {before characters rest : List Char}
      {kind : TokenKind}
      {tokens : List Token}
      (proper : kind ≠ .finish)
      (nonempty : characters ≠ [])
      (filled : ∀ character ∈ characters, Text.isBlank character = false)
      (behind : Tiles (before ++ characters) rest tokens) :
      Tiles before (characters ++ rest) (.over kind before characters :: tokens)

/-- The tokens in front of the last one tile the text. -/
theorem tokensFrom_tiles (before text : List Char) :
    ∃ tokens,
      tokensFrom (byteLength before) 0 text =
          tokens ++ [.over .finish (before ++ text) []] ∧
        Tiles before text tokens := by
  induction before, text using scan_induction with
  | finish before =>
      refine ⟨[], ?_, .finish before⟩
      rw [tokensFrom, List.append_nil]
      rfl
  | blank before first rest blank inductionHypothesis =>
      obtain ⟨tokens, found, tiles⟩ := inductionHypothesis
      refine ⟨tokens, ?_, .blank blank tiles⟩
      rw [byteLength_append] at found
      rw [tokensFrom_blank blank]
      simpa [byteLength] using found
  | lexeme before first rest filled inductionHypothesis =>
      obtain ⟨tokens, found, tiles⟩ := inductionHypothesis
      have whole := Lexeme.take_append_drop_extra first rest
      refine ⟨Lexeme.token before first rest :: tokens, ?_, ?_⟩
      · rw [List.append_assoc, whole, byteLength_append] at found
        rw [tokensFrom_lexeme filled, List.cons_append, ← found]
        rfl
      · have tiled := Tiles.tile (Lexeme.finish_ne_ofChars first rest)
          (List.cons_ne_nil _ _) (Lexeme.filled_lexeme filled rest) tiles
        rwa [whole] at tiled

namespace Tiles

variable {before text : List Char} {tokens : List Token}

/-- Each tile is a stretch of the text. -/
theorem exists_over
    (tiles : Tiles before text tokens) :
    ∀ token ∈ tokens, ∃ kind earlier characters later,
      token = .over kind (before ++ earlier) characters ∧
        text = earlier ++ characters ++ later ∧
        kind ≠ .finish ∧ characters ≠ [] ∧
        ∀ character ∈ characters, Text.isBlank character = false := by
  induction tiles with
  | finish before =>
      simp
  | @blank before rest first tokens blank behind inductionHypothesis =>
      intro token member
      obtain ⟨kind, earlier, characters, later, isToken, isRest, facts⟩ :=
        inductionHypothesis token member
      refine ⟨kind, first :: earlier, characters, later, ?_, ?_, facts⟩
      · rw [isToken, List.append_assoc, List.singleton_append]
      · rw [isRest, List.cons_append, List.cons_append]
  | @tile before head rest kind tokens proper nonempty filled behind
      inductionHypothesis =>
      rw [List.forall_mem_cons]
      refine ⟨⟨kind, [], head, rest, by rw [List.append_nil], rfl, proper, nonempty,
        filled⟩, ?_⟩
      intro token member
      obtain ⟨kind, earlier, characters, later, isToken, isRest, facts⟩ :=
        inductionHypothesis token member
      refine ⟨kind, head ++ earlier, characters, later, ?_, ?_, facts⟩
      · rw [isToken, List.append_assoc]
      · rw [isRest, List.append_assoc, List.append_assoc, List.append_assoc]

/-- No tile starts before the text. -/
theorem le_start
    (tiles : Tiles before text tokens)
    {token : Token}
    (member : token ∈ tokens) :
    byteLength before ≤ token.start := by
  obtain ⟨kind, earlier, characters, later, rfl, _⟩ := tiles.exists_over token member
  change byteLength before ≤ byteLength (before ++ earlier)
  rw [byteLength_append]
  exact Nat.le_add_right _ _

/-- No tile ends behind the text. -/
theorem stop_le
    (tiles : Tiles before text tokens)
    {token : Token}
    (member : token ∈ tokens) :
    token.stop ≤ byteLength (before ++ text) := by
  obtain ⟨kind, earlier, characters, later, rfl, rfl, _⟩ :=
    tiles.exists_over token member
  rw [Token.stop_over, ← List.append_assoc, ← List.append_assoc,
    byteLength_append _ later]
  exact Nat.le_add_right _ _

/-- Tiles do not overlap and come in the order of the text. -/
theorem ordered
    (tiles : Tiles before text tokens) :
    tokens.Pairwise fun earlier later => earlier.stop ≤ later.start := by
  induction tiles with
  | finish before =>
      exact .nil
  | blank blank behind inductionHypothesis =>
      exact inductionHypothesis
  | tile proper nonempty filled behind inductionHypothesis =>
      refine .cons ?_ inductionHypothesis
      intro token member
      rw [Token.stop_over]
      exact behind.le_start member

/-- What no tile covers is blank. -/
theorem blank_or_covered
    (tiles : Tiles before text tokens)
    {earlier later : List Char}
    {character : Char}
    (isText : text = earlier ++ character :: later) :
    Text.isBlank character ∨
      ∃ token ∈ tokens, token.start ≤ byteLength (before ++ earlier) ∧
        byteLength (before ++ earlier) + character.utf8Size ≤ token.stop := by
  induction tiles generalizing earlier with
  | finish before =>
      simp at isText
  | @blank before rest first tokens blank behind inductionHypothesis =>
      cases earlier with
      | nil =>
          cases isText
          exact .inl blank
      | cons head others =>
          cases isText
          have found := inductionHypothesis rfl
          rwa [List.append_assoc] at found
  | @tile before characters rest kind tokens proper nonempty filled behind
      inductionHypothesis =>
      rcases List.append_eq_append_iff.mp isText with
        ⟨passed, rfl, isRest⟩ | ⟨behindCharacter, isTile, isBehind⟩
      · rcases inductionHypothesis isRest with blank | ⟨token, member, covers⟩
        · exact .inl blank
        · rw [List.append_assoc] at covers
          exact .inr ⟨token, List.mem_cons_of_mem _ member, covers⟩
      · cases behindCharacter with
        | nil =>
            -- The tile ends right in front of the character.
            rw [List.append_nil] at isTile
            subst isTile
            rw [List.nil_append] at isBehind
            rcases @inductionHypothesis [] isBehind.symm with
              blank | ⟨token, member, covers⟩
            · exact .inl blank
            · rw [List.append_nil] at covers
              exact .inr ⟨token, List.mem_cons_of_mem _ member, covers⟩
        | cons head others =>
            cases isBehind
            refine .inr ⟨_, List.mem_cons_self, ?_, ?_⟩
            · change byteLength before ≤ _
              rw [byteLength_append]
              exact Nat.le_add_right _ _
            · rw [Token.stop_over, isTile]
              simp only [byteLength_append, byteLength]
              omega

/-- The texts of the tiles make up what is not blank. -/
theorem texts
    (tiles : Tiles before text tokens) :
    (tokens.flatMap fun token => token.text.toList) = Text.compact text := by
  induction tiles with
  | finish before =>
      rfl
  | blank blank behind inductionHypothesis =>
      rw [inductionHypothesis, Text.compact, Text.compact,
        List.filter_cons_of_neg (by simp [blank])]
  | tile proper nonempty filled behind inductionHypothesis =>
      rw [List.flatMap_cons, inductionHypothesis, Text.compact_append,
        Text.compact_eq_self filled, Token.over, String.toList_ofList]

end Tiles

/-- A token lies on character boundaries of a line and has the text between them. -/
structure Token.SliceOf (token : Token) (line : String) : Prop where
  start : String.Pos.Raw.IsValid line ⟨token.start⟩
  stop : String.Pos.Raw.IsValid line ⟨token.stop⟩
  text : line.toByteArray.extract token.start token.stop = token.text.toByteArray

/-- A token is the slice of the text that its span gives. -/
theorem Token.sliceOf_over
    (kind : TokenKind)
    (before characters behind : List Char) :
    (Token.over kind before characters).SliceOf
      (String.ofList (before ++ characters ++ behind)) where
  start := by
    refine String.Pos.Raw.isValid_iff_exists_append.mpr
      ⟨.ofList before, .ofList (characters ++ behind), ?_, ?_⟩
    · rw [List.append_assoc, String.ofList_append]
    · rw [String.Pos.Raw.ext_iff, String.byteIdx_rawEndPos, utf8ByteSize_ofList]
      rfl
  stop := by
    refine String.Pos.Raw.isValid_iff_exists_append.mpr
      ⟨.ofList (before ++ characters), .ofList behind, String.ofList_append, ?_⟩
    rw [String.Pos.Raw.ext_iff, String.byteIdx_rawEndPos, utf8ByteSize_ofList,
      Token.stop_over]
  text := by
    have size (text : List Char) : (String.ofList text).toByteArray.size = byteLength text :=
      utf8ByteSize_ofList text
    change (String.ofList (before ++ characters ++ behind)).toByteArray.extract
      (byteLength before + 0) (byteLength before + byteLength characters) =
        (String.ofList characters).toByteArray
    rw [List.append_assoc, String.ofList_append, String.toByteArray_append,
      ← size before, ← size characters, ByteArray.extract_append_size_add,
      String.ofList_append, String.toByteArray_append, ByteArray.extract_append_eq_left rfl]

/-- Every token of a line is a slice of it. -/
theorem Tiles.sliceOf
    {line : String}
    {tokens : List Token}
    (tiles : Tiles [] line.toList tokens)
    {token : Token}
    (member : token ∈ tokens) :
    token.SliceOf line := by
  obtain ⟨kind, earlier, characters, later, rfl, isLine, _⟩ := tiles.exists_over token member
  have isSlice := Token.sliceOf_over kind earlier characters later
  rwa [← isLine, String.ofList_toList] at isSlice

/-- The token that marks the end of a line. -/
theorem Token.over_finish (line : String) :
    Token.over .finish line.toList [] =
      ⟨.finish, line.utf8ByteSize, line.utf8ByteSize, ""⟩ := by
  have size : byteLength line.toList = line.utf8ByteSize := by
    rw [← utf8ByteSize_ofList, String.ofList_toList]
  rw [Token.over, size]
  rfl

/--
Tokens hold all of a line but its blanks: each but the last, which marks the end
of the line, is a stretch of the line without blanks, and what lies in none of
them is blank.
-/
structure Lossless (line : String) (tokens : List Token) : Prop where
  finish : ∃ others,
    tokens = others ++ [⟨.finish, line.utf8ByteSize, line.utf8ByteSize, ""⟩] ∧
      ∀ token ∈ others, token.kind ≠ .finish ∧ token.start < token.stop
  slices : ∀ token ∈ tokens, token.SliceOf line
  filled : ∀ token ∈ tokens, ∀ character ∈ token.text.toList,
    Text.isBlank character = false
  ordered : tokens.Pairwise fun earlier later => earlier.stop ≤ later.start
  covered : ∀ before character behind, line.toList = before ++ character :: behind →
    Text.isBlank character ∨
      ∃ token ∈ tokens, token.start ≤ byteLength before ∧
        byteLength before + character.utf8Size ≤ token.stop
  texts : String.join (tokens.map Token.text) = .ofList (Text.compact line.toList)
  /-- The texts make up the normal form of the line, unless all of it is blank. -/
  normal : Formulation.normalLines [line.toList] =
    [String.join (tokens.map Token.text)].filter fun text => !text.isEmpty

/--
The tokens of a line lose nothing of it but blanks: each is a slice of the line,
they stand in order without overlapping, and only blanks lie between them.
-/
theorem tokenize_lossless (line : String) : Lossless line (tokenize line) := by
  obtain ⟨tokens, found, tiles⟩ := tokensFrom_tiles [] line.toList
  have isLine : tokenize line = tokens ++ [.over .finish line.toList []] := found
  have texts : String.join ((tokenize line).map Token.text) =
      .ofList (Text.compact line.toList) := by
    rw [isLine, List.map_append, String.join_append, ← String.toList_inj,
      String.toList_append, String.toList_join, List.flatMap_map, tiles.texts]
    simp [Token.over]
  refine
    { finish := ?finish
      slices := ?slices
      filled := ?filled
      ordered := ?ordered
      covered := ?covered
      texts := texts
      normal := ?normal }
  case finish =>
    refine ⟨tokens, by rw [isLine, Token.over_finish], ?_⟩
    intro token member
    obtain ⟨kind, earlier, characters, later, rfl, _, proper, nonempty, _⟩ :=
      tiles.exists_over token member
    exact ⟨proper, Nat.lt_add_of_pos_right (byteLength_pos nonempty)⟩
  case slices =>
    rw [isLine, List.forall_mem_append, List.forall_mem_singleton]
    refine ⟨fun token => tiles.sliceOf, ?_⟩
    have isSlice := Token.sliceOf_over .finish line.toList [] []
    rwa [List.append_nil, List.append_nil, String.ofList_toList] at isSlice
  case filled =>
    rw [isLine, List.forall_mem_append, List.forall_mem_singleton]
    refine ⟨?_, by simp [Token.over]⟩
    intro token member
    obtain ⟨kind, earlier, characters, later, rfl, _, _, _, filled⟩ :=
      tiles.exists_over token member
    rwa [Token.over, String.toList_ofList]
  case ordered =>
    rw [isLine, List.pairwise_append]
    refine ⟨tiles.ordered, List.pairwise_singleton _ _, ?_⟩
    intro token member last isLast
    rw [List.mem_singleton.mp isLast]
    exact tiles.stop_le member
  case covered =>
    intro before character behind split
    rw [isLine]
    rcases tiles.blank_or_covered split with blank | ⟨token, member, covers⟩
    · exact .inl blank
    · exact .inr ⟨token, List.mem_append_left _ member, covers⟩
  case normal =>
    rw [texts, Formulation.normalLines, List.map_singleton]
    cases Text.compact line.toList <;> simp

/-- An en dash and a no-break space take more than one byte. -/
example :
    (tokenize "–3\u00a0x1 é").map (fun token => (token.start, token.stop, token.text)) =
      [(0, 3, "–"), (3, 4, "3"), (6, 8, "x1"), (9, 11, "é"), (11, 11, "")] := by
  rfl

end LinearProgram
