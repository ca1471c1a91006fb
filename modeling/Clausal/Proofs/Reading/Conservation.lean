import Clausal.Proofs.Reading.Faults
import Clausal.Proofs.Sentence.Literals

/-!
# What a reading keeps

Nothing of a text that is read is lost, taken twice or put in another order.  `Spells` is
the relation behind that: the range is some way to write the sentence, wherever it has its
parentheses.  Both readings give sentences that their ranges spell, and settle the literals
of these sentences on the way (`Accounts`), whether they keep groups of one operand or not.
What a spelling has of the sentence is then one induction each: its literals in order
(`Spells.writtenLiterals_eq`) and the number of its tokens of each kind
(`Spells.countP_eq_tokenCount`).

`Spells` puts groups together from the left, one operand after the other, because that is
how a range grows; a parenthesis that it allows where no reading would have it does no harm.
-/

namespace Clausal

open Grouping

theorem Letter.char_injective : Function.Injective Letter.char := by
  rintro ⟨c, hletter, hconnective⟩ ⟨_, _, _⟩ rfl
  rfl

namespace Token

/-! ## The literals that are written -/

/-- Whether what follows some tokens is negated: the nearest of them that opens no group is
a negation. -/
def negates (before : List Token) : Bool :=
  (before.reverse.find? fun token => token.kind ≠ .opening).any fun token => token.kind = .not

/-- The variables among some tokens, each with whether it is negated, where other tokens
stand before them. -/
def writtenLiterals (before : List Token) : List Token → List (Literal Letter)
  | [] => []
  | token :: rest =>
    match token.letter? with
    | some letter => ⟨negates before, letter⟩ :: writtenLiterals (before ++ [token]) rest
    | none => writtenLiterals (before ++ [token]) rest

@[simp] theorem negates_nil : negates [] = false := rfl

/-- Opening parentheses are passed over. -/
theorem negates_append_singleton (before : List Token) (token : Token) :
    negates (before ++ [token]) =
      if token.kind = .opening then negates before else decide (token.kind = .not) := by
  by_cases hopening : token.kind = .opening <;> simp [negates, hopening]

theorem writtenLiterals_append (before first second : List Token) :
    writtenLiterals before (first ++ second) =
      writtenLiterals before first ++ writtenLiterals (before ++ first) second := by
  induction first generalizing before with
  | nil => simp [writtenLiterals]
  | cons token rest ih =>
      rw [List.cons_append, writtenLiterals, writtenLiterals, ih, List.append_assoc,
        List.singleton_append]
      cases token.letter? <;> rfl

theorem letter?_eq_none_iff {token : Token} : token.letter? = none ↔ token.kind ≠ .variable := by
  rw [← Option.not_isSome_iff_eq_none, token.isSome_letter?_iff]

theorem kind_of_letter?_eq_some {token : Token} {letter : Letter}
    (hletter : token.letter? = some letter) : token.kind = .variable :=
  token.isSome_letter?_iff.mp (by rw [hletter]; rfl)

theorem writtenLiterals_cons_of_kind_ne {token : Token} (hkind : token.kind ≠ .variable)
    (before rest : List Token) :
    writtenLiterals before (token :: rest) = writtenLiterals (before ++ [token]) rest := by
  rw [writtenLiterals, letter?_eq_none_iff.mpr hkind]

/-- Without their signs the literals are the variables. -/
theorem map_name_writtenLiterals (before tokens : List Token) :
    (writtenLiterals before tokens).map (fun literal => literal.name.char) =
      (tokens.filter fun token => token.kind = .variable).map symbol := by
  induction tokens generalizing before with
  | nil => rfl
  | cons token rest ih =>
      cases hletter : token.letter? with
      | none =>
          have hkind := letter?_eq_none_iff.mp hletter
          rw [writtenLiterals_cons_of_kind_ne hkind, ih, List.filter_cons_of_neg (by simpa)]
      | some letter =>
          have hkind := kind_of_letter?_eq_some hletter
          rw [writtenLiterals, hletter, List.map_cons, ih, List.filter_cons_of_pos (by simpa),
            List.map_cons, char_of_letter?_eq_some hletter]

end Token

open Token

/-! ## Spelling a sentence -/

/-- The range writes the sentence, with any parentheses. -/
inductive Spells : List Token → Sentence → Prop
  | variable {token : Token} {letter : Letter} (hletter : token.letter? = some letter) :
      Spells [token] (.variable letter)
  | negation {negation token : Token} {rest : List Token} {letter : Letter}
      (hnot : negation.kind = .not) (hwraps : Wraps rest [token])
      (hletter : token.letter? = some letter) :
      Spells (negation :: rest) (.negation (.variable letter))
  | enclosed {opening closing : Token} {inner : List Token} {sentence : Sentence}
      (hopening : opening.kind = .opening) (hclosing : closing.kind = .closing)
      (hinner : Spells inner sentence) : Spells (opening :: (inner ++ [closing])) sentence
  | alone {tokens : List Token} {operand : Sentence} (joint : Connective)
      (hoperand : Spells tokens operand) : Spells tokens (.group joint operand [])
  | join {joint : Connective} {separator : Token} {tokens rest : List Token}
      {first operand : Sentence} {others : List Sentence}
      (hgroup : Spells tokens (.group joint first others))
      (hseparator : separator.kind = .connective joint) (hoperand : Spells rest operand) :
      Spells (tokens ++ separator :: rest) (.group joint first (others ++ [operand]))

namespace Spells

variable {tokens inner : List Token} {sentence : Sentence}

theorem of_wraps (hwraps : Wraps tokens inner) (hinner : Spells inner sentence) :
    Spells tokens sentence := by
  induction hwraps with
  | bare => exact hinner
  | pair hopening hclosing _ ih => exact .enclosed hopening hclosing (ih hinner)

/-- A group grows by the operands that follow. -/
theorem rejoin {joint : Connective} {first : Sentence} {operands operands' : List Sentence}
    {others : List (Token × List Token)} (hgroup : Spells tokens (.group joint first operands))
    (hothers : List.Forall₂ (fun other operand => Spells other.2 operand) others operands')
    (hseparators : ∀ other ∈ others, other.1.kind = .connective joint) :
    Spells (Grouping.rejoin tokens others) (.group joint first (operands ++ operands')) := by
  -- what has been joined so far is a group of its own, which the next operand joins
  induction hothers generalizing tokens operands with
  | nil => simpa using hgroup
  | @cons other operand others operands' hother _ ih =>
      obtain ⟨separator, part⟩ := other
      rw [List.forall_mem_cons] at hseparators
      have hstep := ih (hgroup.join hseparators.1 hother) hseparators.2
      simpa [Grouping.rejoin] using hstep

/-! ## What a spelling has of its sentence -/

private theorem writtenLiterals_of_wraps {token : Token} {letter : Letter}
    (hwraps : Wraps tokens inner) (hinner : inner = [token]) (hletter : token.letter? = some letter)
    (before : List Token) : writtenLiterals before tokens = [⟨negates before, letter⟩] := by
  induction hwraps generalizing before with
  | bare => rw [hinner, writtenLiterals, hletter, writtenLiterals]
  | @pair opening closing tokens inner hopening hclosing _ ih =>
      rw [writtenLiterals_cons_of_kind_ne (by simp [hopening]), writtenLiterals_append, ih hinner,
        writtenLiterals_cons_of_kind_ne (by simp [hclosing]), negates_append_singleton,
        if_pos hopening]
      rfl

/-- The literals of the sentence are those that are written, in order. -/
theorem writtenLiterals_eq (hspells : Spells tokens sentence) {before : List Token}
    (hbefore : negates before = false) : writtenLiterals before tokens = sentence.literals := by
  -- what stands before a range negates it only where the range follows a negation
  induction hspells generalizing before with
  | «variable» hletter =>
      rw [writtenLiterals, hletter, hbefore]
      rfl
  | @negation negation token rest letter hnot hwraps hletter =>
      have hnegates : negates (before ++ [negation]) = true := by
        simp [negates_append_singleton, hnot]
      rw [writtenLiterals_cons_of_kind_ne (by simp [hnot]),
        writtenLiterals_of_wraps hwraps rfl hletter, hnegates]
      rfl
  | @enclosed opening closing inner sentence hopening hclosing _ ih =>
      have hopened : negates (before ++ [opening]) = false := by
        rw [negates_append_singleton, if_pos hopening, hbefore]
      rw [writtenLiterals_cons_of_kind_ne (by simp [hopening]), writtenLiterals_append, ih hopened,
        writtenLiterals_cons_of_kind_ne (by simp [hclosing]), writtenLiterals, List.append_nil]
  | alone joint _ ih =>
      rw [ih hbefore, Sentence.literals_group, List.flatMap_nil, List.append_nil]
  | @join joint separator tokens rest first operand others _ hseparator _ ihGroup ihOperand =>
      have hseparated : negates (before ++ tokens ++ [separator]) = false := by
        rw [negates_append_singleton, if_neg (by simp [hseparator]), hseparator]
        rfl
      rw [writtenLiterals_append, ihGroup hbefore,
        writtenLiterals_cons_of_kind_ne (by simp [hseparator]), ihOperand hseparated,
        Sentence.literals_group, Sentence.literals_group, List.flatMap_append,
        List.flatMap_singleton, List.append_assoc]

private theorem countP_letter {kind : Token.Kind} {token : Token} {letter : Letter}
    (hletter : token.letter? = some letter) :
    [token].countP (fun token => token.kind = kind) = if kind = .variable then 1 else 0 := by
  rw [List.countP_singleton, kind_of_letter?_eq_some hletter]
  simp only [decide_eq_true_eq, @eq_comm _ kind]

section Count

variable {kind : Token.Kind} (hopens : kind ≠ .opening) (hcloses : kind ≠ .closing)
include hopens hcloses

theorem countP_enclose {opening closing : Token} (hopening : opening.kind = .opening)
    (hclosing : closing.kind = .closing) (inner : List Token) :
    (opening :: (inner ++ [closing])).countP (fun token => token.kind = kind) =
      inner.countP fun token => token.kind = kind := by
  simp [hopening, hclosing, hopens.symm, hcloses.symm]

theorem countP_of_wraps (hwraps : Wraps tokens inner) :
    tokens.countP (fun token => token.kind = kind) =
      inner.countP fun token => token.kind = kind := by
  induction hwraps with
  | bare => rfl
  | pair hopening hclosing _ ih =>
      rw [countP_enclose hopens hcloses hopening hclosing, ih]

/-- Parentheses apart, the range has of every kind the tokens that the sentence needs. -/
theorem countP_eq_tokenCount (hspells : Spells tokens sentence) :
    tokens.countP (fun token => token.kind = kind) = sentence.tokenCount kind := by
  induction hspells with
  | @«variable» token letter hletter =>
      rw [countP_letter hletter, Sentence.tokenCount_variable]
  | @negation negation token rest letter hnot hwraps hletter =>
      rw [List.countP_cons, countP_of_wraps hopens hcloses hwraps, countP_letter hletter,
        Sentence.tokenCount_negation, Sentence.tokenCount_variable, Nat.add_comm, hnot]
      simp only [decide_eq_true_eq, @eq_comm _ kind]
  | enclosed hopening hclosing _ ih =>
      rw [countP_enclose hopens hcloses hopening hclosing, ih]
  | alone joint _ ih => rw [ih, Sentence.tokenCount_group_nil]
  | join _ hseparator _ ihGroup ihOperand =>
      rw [List.countP_append, List.countP_cons, ihGroup, ihOperand, hseparator,
        Sentence.tokenCount_group_append_singleton]
      simp only [decide_eq_true_eq, @eq_comm _ kind]
      omega

end Count

end Spells

namespace Reading

/-! ## What a reading accounts for -/

variable {Item : Type} {text : List Char} {tokens context : List Token}

/-- The range spells what it is read as, whose literals are settled on the way. -/
def Accounts (tokens : List Token) (reading : Reading Sentence) : Prop :=
  ∀ sentence, reading.result = .ok sentence →
    Spells tokens sentence ∧ reading.settled = sentence.literals

private theorem of_atom_eq_ok {negated : Bool} {found : Literal Letter}
    (hatom : (atom text negated tokens).result = .ok found) :
    (∃ token letter, tokens = [token] ∧ token.letter? = some letter ∧
      found = ⟨negated, letter⟩) ∧ (atom text negated tokens).settled = [found] := by
  rcases tokens with _ | ⟨token, _ | ⟨second, rest⟩⟩
  · simp [atom] at hatom
  · rw [atom] at hatom ⊢
    cases hletter : token.letter? with
    | none => simp [hletter] at hatom
    | some letter =>
        rw [hletter] at hatom
        obtain rfl := Except.ok.inj hatom
        exact ⟨⟨token, letter, rfl, hletter, rfl⟩, rfl⟩
  · simp [atom] at hatom

theorem settled_map {Value Result : Type} (change : Value → Result) (reading : Reading Value) :
    (change <$> reading).settled = reading.settled := by
  rw [map_eq_pure_bind]
  cases hresult : reading.result with
  | ok value => simp [bind_of_ok hresult]
  | error fault => simp [bind_of_error hresult]

private theorem of_literal_eq_ok {found : Literal Letter}
    (hread : (literal text tokens context).result = .ok found) :
    Spells tokens (Sentence.ofLiteral found) ∧
      (literal text tokens context).settled = [found] := by
  cases tokens with
  | nil => simp [literal] at hread
  | cons first rest =>
      rw [literal] at hread ⊢
      by_cases hnot : first.kind = .not
      · rw [if_pos hnot] at hread ⊢
        cases hstrip : strip? rest with
        | none => simp [strip_eq_fail hstrip, bind_of_error] at hread
        | some inner =>
            rw [strip_eq_pure hstrip, pure_bind] at hread ⊢
            cases inner with
            | nil => simp at hread
            | cons head tail =>
                -- the parentheses between the negation and its variable settle nothing
                obtain ⟨⟨token, letter, htokens, hletter, rfl⟩, hsettled⟩ := of_atom_eq_ok hread
                have hwraps := wraps_of_strip?_eq_some hstrip
                rw [htokens] at hwraps
                exact ⟨.negation hnot hwraps hletter, hsettled⟩
      · rw [if_neg hnot] at hread ⊢
        obtain ⟨⟨token, letter, htokens, hletter, rfl⟩, hsettled⟩ := of_atom_eq_ok hread
        rw [htokens]
        exact ⟨.variable hletter, htokens ▸ hsettled⟩

theorem accounts_literal :
    Accounts tokens (Sentence.ofLiteral <$> literal text tokens context) := by
  intro sentence hread
  obtain ⟨found, hfound, rfl⟩ := map_eq_ok_iff.mp hread
  rw [settled_map, Sentence.literals_ofLiteral]
  exact of_literal_eq_ok hfound

theorem Accounts.of_strip? {inner : List Token} {reading : Reading Sentence}
    (haccounts : Accounts inner reading) (hstrip : strip? tokens = some inner) :
    Accounts tokens reading := by
  intro sentence hread
  obtain ⟨hspells, hsettled⟩ := haccounts sentence hread
  exact ⟨.of_wraps (wraps_of_strip?_eq_some hstrip) hspells, hsettled⟩

/-- What some readings settle one after the other is what they settle each. -/
theorem settled_mapM {Value : Type} {read : Item → Reading Value}
    {written : Value → List (Literal Letter)} {items : List Item} {values : List Value}
    (hread : List.Forall₂ (fun item value => (read item).result = .ok value ∧
      (read item).settled = written value) items values) :
    (items.mapM read).result = .ok values ∧
      (items.mapM read).settled = values.flatMap written := by
  induction hread with
  | nil => exact ⟨rfl, rfl⟩
  | cons hitem _ ih =>
      rw [List.mapM_cons, bind_of_ok hitem.1, bind_of_ok ih.1]
      simp [hitem.2, ih.2]

theorem accounts_joined {joint : Connective} {read : List Token → Reading Sentence}
    (hread : ∀ part ∈ allOperands joint tokens, Accounts part (read part)) :
    Accounts tokens (joined joint read tokens) := by
  intro sentence hjoined
  obtain ⟨first, others, rfl, hfirst, hothers⟩ := joined_eq_ok_iff.mp hjoined
  rw [allOperands, List.forall_mem_cons] at hread
  obtain ⟨hspells, hsettled⟩ := hread.1 first hfirst
  have haccounts := (List.forall₂_and_left _ _).mpr ⟨hread.2, hothers⟩
  constructor
  -- the first operand alone is a group, and each separator brings one more
  · obtain ⟨pairs, hpairs, hseparators, hjoin⟩ :=
      exists_rejoin_split (fun kind => decide (kind = .connective joint)) tokens
    have hoperands : List.Forall₂ Spells (pairs.map Prod.snd) others := by
      rw [hpairs]
      exact haccounts.imp fun part other hpart => (hpart.1 other hpart.2).1
    rw [List.forall₂_map_left_iff] at hoperands
    rw [hjoin]
    exact (Spells.alone joint hspells).rejoin hoperands fun other hother =>
      of_decide_eq_true (hseparators other hother)
  · obtain ⟨hresults, hsettledOthers⟩ := settled_mapM
      (haccounts.imp fun part other hpart => ⟨hpart.2, (hpart.1 other hpart.2).2⟩)
    rw [joined, bind_of_ok hfirst, bind_of_ok hresults, Sentence.literals_group, hsettled,
      hsettledOthers, settled_pure, List.append_nil]

theorem accounts_atLevel (level : Connective) :
    Accounts tokens (atLevel text level tokens context) := by
  induction level, tokens using level_induction generalizing context with
  | step level tokens ih =>
      cases hstrip : strip? tokens with
      | none =>
          intro sentence hread
          simp [atLevel_of_torn hstrip] at hread
      | some inner =>
          refine Accounts.of_strip? ?_ hstrip
          cases hjoint : jointAt level inner with
          | none =>
              rw [atLevel_of_jointAt_eq_none hstrip hjoint]
              exact accounts_literal
          | some joint =>
              rw [atLevel_of_jointAt_eq_some hstrip hjoint]
              exact accounts_joined fun part hpart => ih inner joint hstrip hjoint part hpart

/-- A reading accounts for a range if it does so for what is left of the range without its
enclosing pairs. -/
theorem accounts_strip {next : List Token → Reading Sentence}
    (hnext : ∀ inner, Accounts inner (next inner)) : Accounts tokens (strip tokens >>= next) := by
  cases hstrip : strip? tokens with
  | none =>
      intro sentence hread
      simp [strip_eq_fail hstrip, bind_of_error] at hread
  | some inner =>
      rw [strip_eq_pure hstrip, pure_bind]
      exact (hnext inner).of_strip? hstrip

theorem accounts_clauses : Accounts tokens (clauses text tokens) := by
  rw [clauses_eq]
  refine accounts_strip fun inner => accounts_joined fun conjunct _ => ?_
  rw [clause_eq]
  refine accounts_strip fun inner => accounts_joined fun disjunct _ => ?_
  rw [disjunct_eq]
  exact accounts_strip fun inner => accounts_literal

theorem Mode.accounts_read (mode : Mode) (text : String) :
    Accounts (scan text) (mode.read text) := by
  intro sentence hread
  have hbalanced : Balanced (scan text) := by
    cases mode <;> exact balanced_scan_of_eq_ok hread
  cases mode with
  | direct =>
      rw [Mode.read, Sentence.read_eq, balanced_of_balanced hbalanced] at hread ⊢
      exact accounts_atLevel .and sentence hread
  | clausal =>
      rw [Mode.read, Sentence.readClauses, balanced_of_balanced hbalanced] at hread ⊢
      exact accounts_clauses sentence hread

/-! ## The letters of a text -/

section Read

variable {mode : Mode} {text : String} {sentence : Sentence}
  (hread : (mode.read text).result = .ok sentence)

include hread

theorem spells_of_read_eq_ok : Spells (scan text) sentence :=
  (mode.accounts_read text sentence hread).1

/-- A text that is read has no symbol outside the alphabet. -/
theorem kind_ne_stray_of_read_eq_ok {token : Token} (htoken : token ∈ scan text) :
    token.kind ≠ .stray := by
  have hcount : (scan text).countP (fun token => token.kind = .stray) = 0 := by
    rw [(spells_of_read_eq_ok hread).countP_eq_tokenCount (by simp) (by simp),
      Sentence.tokenCount_stray]
  simpa using List.countP_eq_zero.mp hcount token htoken

theorem literals_of_read_eq_ok : sentence.literals = writtenLiterals [] (scan text) :=
  ((spells_of_read_eq_ok hread).writtenLiterals_eq negates_nil).symm

theorem letters_of_read_eq_ok :
    sentence.letters.map Letter.char =
      ((scan text).filter fun token => token.kind = .variable).map symbol := by
  rw [← map_name_writtenLiterals [], ← literals_of_read_eq_ok hread, ← Sentence.map_name_literals,
    List.map_map]
  rfl

/-- The letters of a text that is read are those of the sentence. -/
theorem mem_letters_iff_of_read_eq_ok (letter : Letter) :
    letter ∈ sentence.letters ↔ letter.char ∈ text.toList := by
  rw [← List.mem_map_of_injective Letter.char_injective, letters_of_read_eq_ok hread]
  have hscan : letter.char ∈ text.toList ↔ ∃ token ∈ scan text, token.symbol = letter.char := by
    rw [← List.mem_map, map_symbol_scan, symbols, List.mem_filter]
    simp [letter.isWhitespace_eq_false]
  rw [hscan, List.mem_map]
  refine exists_congr fun token => and_congr_left fun hsymbol => ?_
  rw [List.mem_filter, and_iff_left_iff_imp]
  intro htoken
  -- a letter stands for a variable or is outside the alphabet, where nothing is read
  have hstray := kind_ne_stray_of_read_eq_ok hread htoken
  have hkind : token.kind = if letter.char.isAlpha then .variable else .stray := by
    rw [← letter.kind_eq token.position, ← hsymbol]
  split at hkind
  · simpa using hkind
  · exact absurd hkind hstray

/-- The records of a text that is read: one for each literal that is written, in order. -/
theorem records_of_read_eq_ok :
    (reported mode (.text text)).2 =
      Journal.Record.readingStarted mode (.text text) ::
        ((writtenLiterals [] (scan text)).map Journal.Record.literalSettled ++
          [Journal.Record.sentenceRead sentence.kindName text]) := by
  have hstray : (scan text).filter (fun token => token.kind = .stray) = [] := by
    rw [List.filter_eq_nil_iff]
    intro token htoken
    simpa using kind_ne_stray_of_read_eq_ok hread htoken
  have hsettled : (mode.read text).settled = writtenLiterals [] (scan text) :=
    (mode.accounts_read text sentence hread).2.trans (literals_of_read_eq_ok hread)
  have hended : Journal.Record.readingEnded text (mode.read text) =
      Journal.Record.sentenceRead sentence.kindName text := by
    rw [Journal.Record.readingEnded, hread]
  rw [reported, Journal.Record.ofReading, Journal.Record.straySymbols, hstray, hsettled, hended]
  rfl

end Read

/-- A journal of all details writes down every record. -/
theorem written_postAll_of_debug {journal : Journal} (hlevel : journal.level = .debug)
    (records : List Journal.Record) :
    (journal.postAll records).written = journal.written ++ records := by
  have hreached : ∀ record ∈ records, decide (journal.level ≤ record.level) = true :=
    fun record _ => decide_eq_true (hlevel ▸ Nat.zero_le record.level.rank)
  rw [Journal.written_postAll, List.filter_eq_self.mpr hreached]

/-- **Nothing is lost, doubled or reordered.**  Where a text is read in either mode, the literals
of the sentence are those written in the text, in order; so are its variables.  The text has
as many negations as the sentence has nodes of that kind, and of each connective as many as all
groups under it have operands after their first.  The distinct letters of the sentence are the
letters in the text.  A journal of all details gets the record of each written literal once,
in order, and no other between the first record of the reading and the last. -/
theorem Mode.read_conserves (mode : Mode) (text : String) (sentence : Sentence)
    (hread : (mode.read text).result = .ok sentence) :
    sentence.literals = writtenLiterals [] (scan text) ∧
    sentence.letters.map Letter.char =
      ((scan text).filter fun token => token.kind = .variable).map symbol ∧
    sentence.preorder.count .negation = (scan text).countP (fun token => token.kind = .not) ∧
    (∀ joint, sentence.tokenCount (.connective joint) =
      (scan text).countP fun token => token.kind = .connective joint) ∧
    (∀ letter, letter ∈ sentence.distinctLetters ↔ letter.char ∈ text.toList) ∧
    ∀ journal : Journal, journal.level = .debug →
      (journal.postAll (reported mode (.text text)).2).written =
        journal.written ++ Journal.Record.readingStarted mode (.text text) ::
          ((writtenLiterals [] (scan text)).map Journal.Record.literalSettled ++
            [Journal.Record.sentenceRead sentence.kindName text]) := by
  have hspells := spells_of_read_eq_ok hread
  refine ⟨literals_of_read_eq_ok hread, letters_of_read_eq_ok hread, ?_, ?_, ?_, ?_⟩
  · rw [← Sentence.tokenCount_not, hspells.countP_eq_tokenCount (by simp) (by simp)]
  · intro joint
    rw [hspells.countP_eq_tokenCount (by simp) (by simp)]
  · intro letter
    rw [Sentence.mem_distinctLetters_iff, mem_letters_iff_of_read_eq_ok hread]
  · intro journal hlevel
    rw [written_postAll_of_debug hlevel, records_of_read_eq_ok hread]

/-- A group may stand between a negation and its variable. -/
theorem Mode.read_conserves_negated_group :
    (direct.read "~(A) v (B ^ ~C)").result =
      .ok (.disjunction (.negation (.variable ⟨'A', by decide, by decide⟩))
        [.conjunction (.variable ⟨'B', by decide, by decide⟩)
          [.negation (.variable ⟨'C', by decide, by decide⟩)]]) ∧
    writtenLiterals [] (scan "~(A) v (B ^ ~C)") =
      [⟨true, ⟨'A', by decide, by decide⟩⟩, ⟨false, ⟨'B', by decide, by decide⟩⟩,
        ⟨true, ⟨'C', by decide, by decide⟩⟩] ∧
    (scan "~(A) v (B ^ ~C)").countP (fun token => token.kind = .not) = 2 := by
  have hread : (direct.read "~(A) v (B ^ ~C)").result =
      .ok (.disjunction (.negation (.variable ⟨'A', by decide, by decide⟩))
        [.conjunction (.variable ⟨'B', by decide, by decide⟩)
          [.negation (.variable ⟨'C', by decide, by decide⟩)]]) := by decide +kernel
  obtain ⟨hliterals, -, hnegations, -⟩ := direct.read_conserves _ _ hread
  exact ⟨hread, hliterals.symm, hnegations.symm⟩

end Reading

end Clausal
