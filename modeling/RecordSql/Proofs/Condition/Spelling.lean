import RecordSql.Condition.Compile
import RecordSql.Proofs.Condition.Grammar
import RecordSql.Proofs.Condition.Stack

/-!
# How fragments are read

`Spells d text args ts` says that a text with arguments is read as the tokens `ts`, whatever follows it but a letter. The statements
put one token before a text at a time; from them follows how the fragment of a leaf is read (`spells_compileLeaf`).
-/

namespace RecordSql

/-- The quote of names is the double quote or the grave accent. -/
theorem Dialect.nameQuote_cases (d : Dialect) : d.nameQuote = '\x22' ∨ d.nameQuote = '\x60' := by
  cases d <;> simp [nameQuote, Text.quotationMark, Text.graveAccent]

/-- A letter, a comparison sign, a blank, a mark or a placeholder is not a quote of names. -/
theorem Dialect.nameQuote_ne (d : Dialect) {c : Char} (h : c ≠ '\x22' ∧ c ≠ '\x60') : c ≠ d.nameQuote := by
  rcases d.nameQuote_cases with hq | hq <;> rw [hq]
  · exact h.1
  · exact h.2

namespace Token

/-- A character of one kind is not a character of another. -/
theorem ne_of_kind {p : Char → Bool} {c x : Char} (hc : p c = true) (hx : p x = false) : c ≠ x := by
  intro h
  rw [h, hx] at hc
  cases hc

/-- A run of characters of one kind ends where a character of another kind follows. -/
theorem takeWhile_run {p : Char → Bool} {run rest : List Char} (hp : ∀ c ∈ run, p c = true)
    (hr : (rest.head?.all fun c => !p c) = true) :
    (run ++ rest).takeWhile p = run ∧ (run ++ rest).dropWhile p = rest := by
  rw [List.takeWhile_append_of_pos hp, List.dropWhile_append_of_pos hp]
  cases rest with
  | nil => simp
  | cons c cs =>
    have hc : p c = false := by simpa using hr
    simp [hc]

/-- The text with the arguments is read as the tokens, whatever follows it but a letter. -/
def Spells (d : Dialect) (text : List Char) (args : List Value) (ts : List Token) : Prop :=
  ∀ rest more, (rest.head?.all fun c => !c.isUpper) = true →
    ofText? d.nameQuote (args ++ more) (text ++ rest) = (ofText? d.nameQuote more rest).map (ts ++ ·)

namespace Spells

variable {d : Dialect} {text : List Char} {args : List Value} {ts : List Token}

theorem nil (d : Dialect) : Spells d [] [] [] := by
  intro rest more _
  simp only [List.nil_append]
  cases ofText? d.nameQuote more rest <;> rfl

/-- Texts are read one after the other when the second does not start with a letter. -/
theorem append {text' : List Char} {args' : List Value} {ts' : List Token} (h : Spells d text args ts)
    (h' : Spells d text' args' ts') (hne : text' ≠ []) (hb : (text'.head?.all fun c => !c.isUpper) = true) :
    Spells d (text ++ text') (args ++ args') (ts ++ ts') := by
  intro rest more hr
  have hhead : ((text' ++ rest).head?.all fun c => !c.isUpper) = true := by
    cases text' with
    | nil => exact absurd rfl hne
    | cons c cs => exact hb
  rw [List.append_assoc, List.append_assoc, h _ _ hhead, h' _ _ hr, Option.map_map]
  congr 1
  funext us
  simp

/-- A token before a text, from how the start of the text is read. -/
theorem cons_of_first? (h : Spells d text args ts) (start : List Char) (given : List Value) (us : List Token)
    (hf : ∀ rest more, (rest.head?.all fun c => !c.isUpper) = true →
      first? d.nameQuote (given ++ (args ++ more)) (start ++ (text ++ rest)) = some (us, text ++ rest, args ++ more)) :
    Spells d (start ++ text) (given ++ args) (us ++ ts) := by
  intro rest more hr
  rw [List.append_assoc, List.append_assoc, ofText?_of_first? (hf rest more hr), h rest more hr, Option.map_map]
  congr 1
  funext vs
  simp

/-- A blank is passed over. -/
theorem blank (h : Spells d text args ts) : Spells d (' ' :: text) args ts :=
  h.cons_of_first? [' '] [] [] fun _ _ _ => rfl

/-- A placeholder is read as the first of the arguments. -/
theorem argument (h : Spells d text args ts) (v : Value) :
    Spells d ('?' :: text) (v :: args) (.argument v :: ts) := by
  refine h.cons_of_first? ['?'] [v] [.argument v] fun rest more _ => ?_
  have hq : '?' ≠ d.nameQuote := d.nameQuote_ne (by decide)
  simp [first?, hq]

/-- A comma or a parenthesis stands for itself. -/
theorem mark (h : Spells d text args ts) (c : Char) (t : Token) (ht : ofMark? c = some t) :
    Spells d (c :: text) args (t :: ts) := by
  refine h.cons_of_first? [c] [] [t] fun rest more _ => ?_
  have hc : c = ',' ∨ c = '(' ∨ c = ')' := by
    unfold ofMark? at ht
    split at ht <;> simp_all
  have hq : c ≠ d.nameQuote := d.nameQuote_ne (by rcases hc with rfl | rfl | rfl <;> decide)
  rcases hc with rfl | rfl | rfl <;> simp [first?, hq, isSign, ht]

/-- A comparison sign is read as far as it goes. -/
theorem sign (h : Spells d text args ts) (c : Char) (cs : List Char) (k : Comparison)
    (hk : Comparison.ofSign? (c :: cs) = some k) (hc : (c :: cs).all isSign = true) (hne : text ≠ [])
    (hb : (text.head?.all fun c => !isSign c) = true) :
    Spells d (c :: cs ++ text) args (.comparison k :: ts) := by
  refine h.cons_of_first? (c :: cs) [] [.comparison k] fun rest more _ => ?_
  have hend : ((text ++ rest).head?.all fun c => !isSign c) = true := by
    cases text with
    | nil => exact absurd rfl hne
    | cons x xs => exact hb
  have hsigns := List.all_eq_true.mp hc
  have hsign := hsigns c (List.mem_cons_self ..)
  have hq : c ≠ d.nameQuote := d.nameQuote_ne ⟨ne_of_kind hsign rfl, ne_of_kind hsign rfl⟩
  have hblank : c ≠ ' ' := ne_of_kind hsign rfl
  have hhole : c ≠ '?' := ne_of_kind hsign rfl
  obtain ⟨htake, hdrop⟩ := takeWhile_run (fun x hx => hsigns x (List.mem_cons_of_mem _ hx)) hend
  simp only [List.nil_append, List.cons_append, first?, if_neg hblank, if_neg hq, if_neg hhole, hsign, if_true, htake, hk,
    hdrop, Option.map_some]

/-- A word is read as far as it goes. -/
theorem word (h : Spells d text args ts) (c : Char) (cs : List Char) (k : Keyword)
    (hk : Keyword.ofWord? (c :: cs) = some k) (hc : (c :: cs).all Char.isUpper = true)
    (hb : (text.head?.all fun c => !c.isUpper) = true) :
    Spells d (c :: cs ++ text) args (.keyword k :: ts) := by
  refine h.cons_of_first? (c :: cs) [] [.keyword k] fun rest more hr => ?_
  have hend : ((text ++ rest).head?.all fun c => !c.isUpper) = true := by
    cases text with
    | nil => exact hr
    | cons x xs => exact hb
  have huppers := List.all_eq_true.mp hc
  have hupper := huppers c (List.mem_cons_self ..)
  have hq : c ≠ d.nameQuote := d.nameQuote_ne ⟨ne_of_kind hupper rfl, ne_of_kind hupper rfl⟩
  have hblank : c ≠ ' ' := ne_of_kind hupper rfl
  have hhole : c ≠ '?' := ne_of_kind hupper rfl
  have hsign : isSign c = false := by
    simp only [isSign, Bool.or_eq_false_iff, beq_eq_false_iff_ne]
    exact ⟨⟨ne_of_kind hupper rfl, ne_of_kind hupper rfl⟩, ne_of_kind hupper rfl⟩
  obtain ⟨htake, hdrop⟩ := takeWhile_run (fun x hx => huppers x (List.mem_cons_of_mem _ hx)) hend
  simp only [List.nil_append, List.cons_append, first?, if_neg hblank, if_neg hq, if_neg hhole, hsign, hupper, if_true, htake,
    hk, hdrop, Option.map_some]
  rfl

/-- A quoted name is read as the name. -/
theorem name (h : Spells d text args ts) (column : String) (hne : text ≠ []) (hb : text.head? ≠ some d.nameQuote) :
    Spells d ((d.quoteName column).toList ++ text) args (.name column :: ts) := by
  refine h.cons_of_first? (d.quoteName column).toList [] [.name column] fun rest more _ => ?_
  have hend : (text ++ rest).head? ≠ some d.nameQuote := by
    cases text with
    | nil => exact absurd rfl hne
    | cons x xs => exact hb
  obtain ⟨cs, hcs, hr⟩ := Text.readEnclosed_enclosed d.nameQuote column (text ++ rest) hend
  have hblank : d.nameQuote ≠ ' ' := (d.nameQuote_ne (by decide)).symm
  simp only [Dialect.quoteName, hcs, List.nil_append, List.cons_append, first?, if_neg hblank, if_true, hr, Option.map_some,
    String.ofList_toList]

end Spells

/-! ## The fragments of leaves -/

/-- What is written after the column of a comparison. -/
theorem spells_compare (d : Dialect) (column : String) (c : Comparison) (v : Value) :
    ∃ ts, (Predicate.compare column c v).Stated (.name column :: ts) ∧
      Spells d (" " ++ (NodeKind.compare c).keyword ++ " ?").toList [v] ts := by
  have hole : Spells d [' ', '?'] [v] [.argument v] := ((Spells.nil d).argument v).blank
  have like : Spells d " LIKE ?".toList [v] [.keyword .like, .argument v] :=
    (hole.word 'L' "IKE".toList .like rfl (by decide) rfl).blank
  cases c with
  | equal => exact ⟨_, .compare .., (hole.sign '=' [] .equal rfl (by decide) (by simp) rfl).blank⟩
  | notEqual => exact ⟨_, .compare .., (hole.sign '<' ['>'] .notEqual rfl (by decide) (by simp) rfl).blank⟩
  | greater => exact ⟨_, .compare .., (hole.sign '>' [] .greater rfl (by decide) (by simp) rfl).blank⟩
  | greaterEqual => exact ⟨_, .compare .., (hole.sign '>' ['='] .greaterEqual rfl (by decide) (by simp) rfl).blank⟩
  | less => exact ⟨_, .compare .., (hole.sign '<' [] .less rfl (by decide) (by simp) rfl).blank⟩
  | lessEqual => exact ⟨_, .compare .., (hole.sign '<' ['='] .lessEqual rfl (by decide) (by simp) rfl).blank⟩
  | like => exact ⟨_, .like column false v, like⟩
  | notLike => exact ⟨_, .like column true v, (like.word 'N' "OT".toList .not rfl (by decide) rfl).blank⟩

/-- What is written after the column of a range test. -/
theorem spells_between (d : Dialect) (negated : Bool) (low high : Value) :
    Spells d (" " ++ (NodeKind.between negated).keyword ++ " ? AND ?").toList [low, high]
      (ofNegated negated ++ [.keyword .between, .argument low, .keyword .and, .argument high]) := by
  have bounds : Spells d " ? AND ?".toList [low, high] [.argument low, .keyword .and, .argument high] :=
    ((((Spells.nil d).argument high).blank.word 'A' "ND".toList .and rfl (by decide) rfl).blank.argument low).blank
  have between : Spells d " BETWEEN ? AND ?".toList [low, high] _ :=
    (bounds.word 'B' "ETWEEN".toList .between rfl (by decide) rfl).blank
  cases negated with
  | false => exact between
  | true => exact (between.word 'N' "OT".toList .not rfl (by decide) rfl).blank

/-- The placeholders of a membership test, up to its parenthesis. -/
theorem spells_members (d : Dialect) (v : Value) (values : List Value) :
    Spells d ((Text.separated "," ((v :: values).map fun _ => "?")).toList ++ [')']) (v :: values)
      (.argument v :: (ofMembers values ++ [.closing])) := by
  induction values generalizing v with
  | nil => simpa [Text.separated, ofMembers] using ((Spells.nil d).mark ')' .closing rfl).argument v
  | cons w values ih =>
    have hcons : (Text.separated "," ((v :: w :: values).map fun _ => "?")).toList =
        '?' :: ',' :: (Text.separated "," ((w :: values).map fun _ => "?")).toList := by
      simp [Text.separated]
    rw [hcons]
    exact ((ih w).mark ',' .comma rfl).argument v

/-- What is written after the column of a membership test. -/
theorem spells_member (d : Dialect) (negated : Bool) (v : Value) (values : List Value) :
    Spells d (" " ++ (NodeKind.member negated).keyword ++ " (" ++ Text.separated "," ((v :: values).map fun _ => "?") ++
        ")").toList (v :: values)
      (ofNegated negated ++ .keyword .within :: .opening :: .argument v :: (ofMembers values ++ [.closing])) := by
  have member := (((spells_members d v values).mark '(' .opening rfl).blank.word 'I' "N".toList .within rfl (by decide)
    rfl).blank
  cases negated with
  | false => simpa [NodeKind.keyword, ofNegated] using member
  | true =>
    simpa [NodeKind.keyword, ofNegated] using (member.word 'N' "OT".toList .not rfl (by decide) rfl).blank

/-- What is written after the column of a null test. -/
theorem spells_null (d : Dialect) (negated : Bool) :
    Spells d (" " ++ (NodeKind.null negated).keyword).toList [] (.keyword .is :: (ofNegated negated ++ [.keyword .null])) := by
  have null : Spells d " NULL".toList [] [.keyword .null] :=
    ((Spells.nil d).word 'N' "ULL".toList .null rfl (by decide) rfl).blank
  cases negated with
  | false => exact (null.word 'I' "S".toList .is rfl (by decide) rfl).blank
  | true => exact ((null.word 'N' "OT".toList .not rfl (by decide) rfl).blank.word 'I' "S".toList .is rfl (by decide) rfl).blank

/-- A quoted column and what is written after it. -/
theorem spells_columnFragment (d : Dialect) (column rest : String) (args : List Value) (ts : List Token)
    (h : Spells d rest.toList args ts) (hb : rest.toList.head? = some ' ') :
    Spells d (Condition.columnFragment d column rest args).sql.toList args (.name column :: ts) := by
  have hne : rest.toList ≠ [] := by
    intro hnil
    rw [hnil] at hb
    cases hb
  have hq : rest.toList.head? ≠ some d.nameQuote := by
    rw [hb]
    intro heq
    exact d.nameQuote_ne (by decide) (Option.some.inj heq)
  have hname := h.name column hne hq
  rw [← String.toList_append] at hname
  exact hname

end Token

/-- The fragment of a leaf states its predicate with its own arguments. -/
theorem Condition.spells_compileLeaf (d : Dialect) (position : Nat) (node : Node) (s : Statement)
    (h : compileLeaf d position node = .ok s) :
    ∃ p ts, node.predicate? = some p ∧ p.Stated ts ∧ Token.Spells d s.sql.toList s.args ts := by
  cases compileLeaf_eq_ok_iff.mp h with
  | compare c column v =>
    obtain ⟨ts, hts, hs⟩ := Token.spells_compare d column c v
    exact ⟨_, _, rfl, hts, Token.spells_columnFragment d column _ [v] ts hs (by simp)⟩
  | between n column low high =>
    exact ⟨_, _, rfl, .between column n low high,
      Token.spells_columnFragment d column _ _ _ (Token.spells_between d n low high) (by simp)⟩
  | member n column v values =>
    exact ⟨_, _, rfl, .member column n v values,
      Token.spells_columnFragment d column _ _ _ (Token.spells_member d n v values) (by simp)⟩
  | nullColumn n column | nullValue n column v =>
    exact ⟨_, _, rfl, .null column n, Token.spells_columnFragment d column _ _ _ (Token.spells_null d n) (by simp)⟩

end RecordSql
