import Clausal.Proofs.Reading.Faults

/-!
# What a range quotes

A fault quotes the slice of the text that a range of tokens covers.  The positions of the
tokens are used for nothing else, so everything about them is here: a range of consecutive
tokens of a text covers a part of the text whose tokens, counted from where the part begins,
are that range (`covers_slice`).

The ranges that a reading works on are all of this kind (`hereditary_isInfix`): they are cut
out of the tokens of the whole text.
-/

namespace Clausal

namespace Token

theorem scanFrom_append (start : Nat) (first second : List Char) :
    scanFrom start (first ++ second) =
      scanFrom start first ++ scanFrom (start + first.length) second := by
  induction first generalizing start with
  | nil => rfl
  | cons c rest ih =>
      rw [List.cons_append, scanFrom_cons, scanFrom_cons, ih, List.length_cons,
        Nat.add_right_comm start 1, Nat.add_assoc start]
      split <;> rfl

theorem scanFrom_cons_of_white {c : Char} (hwhite : c.isWhitespace = true) (start : Nat)
    (rest : List Char) : scanFrom start (c :: rest) = scanFrom (start + 1) rest := by
  rw [scanFrom_cons, if_pos hwhite]

theorem scanFrom_cons_of_not_white {c : Char} (hwhite : c.isWhitespace = false) (start : Nat)
    (rest : List Char) :
    scanFrom start (c :: rest) = ⟨c, start⟩ :: scanFrom (start + 1) rest := by
  rw [scanFrom_cons, hwhite, if_neg Bool.false_ne_true]

/-- A token stands in the text at its position, and what is before it and after it is scanned
to the tokens before it and after it. -/
theorem exists_of_scanFrom_eq_append_cons {start : Nat} {text : List Char} {front back : List Token}
    {token : Token} (hscan : scanFrom start text = front ++ token :: back) :
    ∃ before after, text = before ++ token.symbol :: after ∧
      token.position = start + before.length ∧ token.symbol.isWhitespace = false ∧
        scanFrom start before = front ∧ scanFrom (token.position + 1) after = back := by
  induction text generalizing start front with
  | nil => simp at hscan
  | cons c rest ih =>
      cases hwhite : c.isWhitespace with
      | true =>
          rw [scanFrom_cons_of_white hwhite] at hscan
          obtain ⟨before, after, rfl, hposition, hsymbol, hbefore, hafter⟩ := ih hscan
          refine ⟨c :: before, after, rfl, ?_, hsymbol, ?_, hafter⟩
          · rw [hposition, List.length_cons]
            omega
          · rw [scanFrom_cons_of_white hwhite, hbefore]
      | false =>
          rw [scanFrom_cons_of_not_white hwhite] at hscan
          cases front with
          | nil =>
              rw [List.nil_append, List.cons.injEq] at hscan
              obtain ⟨rfl, hrest⟩ := hscan
              exact ⟨[], rest, rfl, rfl, hwhite, rfl, hrest⟩
          | cons first front =>
              rw [List.cons_append, List.cons.injEq] at hscan
              obtain ⟨rfl, hrest⟩ := hscan
              obtain ⟨before, after, rfl, hposition, hsymbol, hbefore, hafter⟩ := ih hrest
              refine ⟨c :: before, after, rfl, ?_, hsymbol, ?_, hafter⟩
              · rw [hposition, List.length_cons]
                omega
              · rw [scanFrom_cons_of_not_white hwhite, hbefore]

/-- The token so much further on. -/
def shift (distance : Nat) (token : Token) : Token := ⟨token.symbol, distance + token.position⟩

theorem keepsSymbols_shift (distance : Nat) : KeepsSymbols (shift distance) := fun _ => rfl

theorem scanFrom_add (distance start : Nat) (text : List Char) :
    scanFrom (distance + start) text = (scanFrom start text).map (shift distance) := by
  induction text generalizing start with
  | nil => rfl
  | cons c rest ih =>
      rw [scanFrom_cons, scanFrom_cons, Nat.add_assoc, ih]
      split <;> rfl

end Token

namespace Grouping

variable {tokens inner part : List Token}

theorem isInfix_of_wraps (hwraps : Wraps tokens inner) : inner <:+: tokens := by
  induction hwraps with
  | bare => exact List.infix_rfl
  | @pair opening closing tokens inner hopening hclosing _ ih =>
      exact ih.trans ⟨[opening], [closing], by simp⟩

theorem isInfix_rejoin {first part : List Token} {others : List (Token × List Token)}
    (hpart : part ∈ first :: others.map Prod.snd) : part <:+: rejoin first others := by
  induction others generalizing first with
  | nil =>
      obtain rfl : part = first := by simpa using hpart
      simp only [rejoin_nil, List.infix_rfl]
  | cons other others ih =>
      obtain ⟨separator, second⟩ := other
      rw [rejoin_cons]
      rcases List.mem_cons.mp hpart with rfl | hpart
      · exact (List.prefix_append part _).isInfix
      · exact (ih hpart).trans ⟨first ++ [separator], [], by simp⟩

theorem isInfix_of_mem_allOperands {joint : Connective} (hpart : part ∈ allOperands joint tokens) :
    part <:+: tokens := by
  obtain ⟨others, hparts, -, hjoin⟩ :=
    exists_rejoin_split (fun kind => decide (kind = .connective joint)) tokens
  have hmem : part ∈ (split (fun kind => decide (kind = .connective joint)) tokens).1 ::
      others.map Prod.snd := by
    rw [hparts]
    exact hpart
  have hwithin := isInfix_rejoin hmem
  rwa [← hjoin] at hwithin

end Grouping

namespace Reading

open Grouping Token

variable {text : List Char} {tokens : List Token}

/-- A part of a text is what a range of tokens covers: it begins at the first token and ends with
the last, and its own tokens, counted from where it begins, are the range. -/
def Covers (text : List Char) (range : List Token) (part : List Char) : Prop :=
  ∃ before after first last, text = before ++ (part ++ after) ∧
    range.head? = some first ∧ first.position = before.length ∧
    range.getLast? = some last ∧ last.position + 1 = before.length + part.length ∧
    (scanFrom 0 part).map (shift before.length) = range

theorem Covers.slice_eq {part : List Char} (hcovers : Covers text tokens part) :
    slice text tokens = part := by
  obtain ⟨before, after, first, last, rfl, hhead, hfirst, hend, hlast, -⟩ := hcovers
  simp only [slice, hhead, hend]
  rw [hlast, hfirst, Nat.add_sub_cancel_left, List.drop_left, List.take_left]

theorem exists_covers (hwithin : tokens <:+: scanFrom 0 text) (hnonempty : tokens ≠ []) :
    ∃ part, Covers text tokens part := by
  obtain ⟨front, back, hscan⟩ := hwithin
  obtain ⟨first, rest, rfl⟩ := List.exists_cons_of_ne_nil hnonempty
  rw [List.append_assoc, List.cons_append] at hscan
  obtain ⟨before, after, htext, hfirst, hwhite, -, hrest⟩ :=
    exists_of_scanFrom_eq_append_cons hscan.symm
  rw [Nat.zero_add] at hfirst
  rcases List.eq_nil_or_concat' rest with rfl | ⟨init, last, rfl⟩
  · refine ⟨[first.symbol], before, after, first, first, htext, rfl, hfirst, rfl, ?_, ?_⟩
    · rw [hfirst, List.length_singleton]
    · rw [← scanFrom_add, Nat.add_zero, scanFrom_cons_of_not_white hwhite, scanFrom_nil, ← hfirst]
  · -- the last token is in what follows the first one
    rw [List.append_assoc, List.singleton_append] at hrest
    obtain ⟨between, after, rfl, hlast, hwhite', hbetween, -⟩ :=
      exists_of_scanFrom_eq_append_cons hrest
    refine ⟨first.symbol :: (between ++ [last.symbol]), before, after, first, last, ?_, rfl, hfirst,
      ?_, ?_, ?_⟩
    · simp [htext]
    · rw [← List.cons_append, List.getLast?_concat]
    · rw [hlast, hfirst, List.length_cons, List.length_append, List.length_singleton]
      omega
    · rw [← scanFrom_add, Nat.add_zero, scanFrom_cons_of_not_white hwhite, scanFrom_append,
        ← hfirst, hbetween, ← hlast, scanFrom_cons_of_not_white hwhite', scanFrom_nil]

/-- A range of consecutive tokens covers its slice of the text. -/
theorem covers_slice (hwithin : tokens <:+: scanFrom 0 text) (hnonempty : tokens ≠ []) :
    Covers text tokens (slice text tokens) := by
  obtain ⟨part, hcovers⟩ := exists_covers hwithin hnonempty
  rwa [hcovers.slice_eq]

/-- A slice has the symbols of the range that it covers. -/
theorem symbols_slice (hwithin : tokens <:+: scanFrom 0 text) :
    symbols (slice text tokens) = tokens.map symbol := by
  rcases eq_or_ne tokens [] with rfl | hnonempty
  · rfl
  · obtain ⟨before, -, -, -, -, -, -, -, -, hscan⟩ := covers_slice hwithin hnonempty
    rw [← map_symbol_scanFrom before.length, ← Nat.add_zero before.length, scanFrom_add, hscan]

/-- Every range that a reading of a balanced text works on consists of consecutive tokens. -/
theorem hereditary_isInfix (text : List Char) :
    Hereditary fun tokens => Balanced tokens ∧ tokens <:+: scanFrom 0 text where
  balanced htokens := htokens.1
  strip htokens hstrip := ⟨htokens.1.of_strip?_eq_some hstrip,
    (isInfix_of_wraps (wraps_of_strip?_eq_some hstrip)).trans htokens.2⟩
  operand htokens hpart := ⟨htokens.1.of_mem_allOperands hpart,
    (isInfix_of_mem_allOperands hpart).trans htokens.2⟩

end Reading

end Clausal
