import Groundwork.Component.Chart
import Groundwork.Proofs.Component.Templates

/-!
# Chart values as they are read

The arguments that set values of a chart are read by another program, of which this much is taken to
hold: it takes the character behind a backslash literally and reads pairs with commas between them,
each a key, an equals sign and a value; if it knows lists, it takes a value that begins with an
opening brace for one (`readPairs`).

An escaped value has no bare mark left, so it is read as one value (`readContent_escaped`), and as
filling a template with escaped values is escaping what it is filled with (`fill_escapeValue`), an
argument is read as its key with the filled template (`readValueArgs_fill`).  Braces are not
escaped.  To a reader that knows lists a value stays a text only if it does not begin with one, and
an item of a list stays one item only if no brace closes the list early (`readValueArgs_braces`).
-/

namespace Groundwork.ValueText

variable {c : Char} {cs rest : List Char} {key value : String} {lists : Bool}

/-! ### The reader -/

/-- A character as the reader sees it. -/
inductive Token where
  /-- It may have a meaning. -/
  | bare (c : Char)
  /-- It stood behind a backslash and means itself. -/
  | quoted (c : Char)
  deriving DecidableEq

/-- The character itself. -/
def Token.char : Token → Char
  | .bare c => c
  | .quoted c => c

/-- Each backslash is dropped and the character behind it taken literally. -/
def tokens : List Char → List Token
  | [] => []
  | '\\' :: c :: rest => .quoted c :: tokens rest
  | ['\\'] => []
  | c :: rest => .bare c :: tokens rest

/-- The text of some tokens. -/
def plain (ts : List Token) : String :=
  String.ofList (ts.map Token.char)

/-- The text without the backslashes that escape something. -/
def unescape (s : String) : String :=
  plain (tokens s.toList)

/-- What a value is read as. -/
inductive Content where
  | text (s : String)
  | list (items : List String)
  deriving DecidableEq

/-- Reads the value in front and gives what comes after it.  To a reader that knows lists a list
begins with an opening brace and ends at the first closing brace, with commas between its items.
Any other value is a text and ends at a comma. -/
def readContent (lists : Bool) (ts : List Token) : Option (Content × List Token) :=
  match lists, ts with
  | true, .bare '\x7b' :: body =>
    match body.dropWhile fun t => t ≠ .bare '\x7d' with
    | [] => none
    | _ :: after =>
      let items := List.splitOn (.bare ',') (body.takeWhile fun t => t ≠ .bare '\x7d')
      some (.list (items.map plain), after)
  | _, _ =>
    some (.text (plain (ts.takeWhile fun t => t ≠ .bare ',')), ts.dropWhile fun t => t ≠ .bare ',')

theorem length_readContent_le {ts after : List Token} {content : Content}
    (h : readContent lists ts = some (content, after)) : after.length ≤ ts.length := by
  unfold readContent at h
  split at h
  · rename_i body
    split at h
    · cases h
    · rename_i hdrop
      cases h
      have hle := (List.dropWhile_sublist (fun t => decide (t ≠ .bare '\x7d')) (l := body)).length_le
      rw [hdrop] at hle
      simp only [List.length_cons] at hle ⊢
      omega
  · cases h
    exact (List.dropWhile_sublist _).length_le

/-- Neither the equals sign behind a key nor the comma behind a pair. -/
def isWithinKey (t : Token) : Bool :=
  t ≠ .bare '=' && t ≠ .bare ','

/-- Reads pairs of a key and a value up to the end.  A key without a value cannot be read. -/
def readPairs (lists : Bool) (ts : List Token) : Option (List (String × Content)) :=
  match _h : ts.dropWhile isWithinKey with
  | .bare '=' :: front =>
    let key := plain (ts.takeWhile isWithinKey)
    match _hread : readContent lists front with
    | none => none
    | some (content, []) => some [(key, content)]
    | some (content, .bare ',' :: more) => (readPairs lists more).map ((key, content) :: ·)
    | some _ => none
  | _ => none
termination_by ts.length
decreasing_by
  have hle := (List.dropWhile_sublist isWithinKey (l := ts)).length_le
  have hmore := length_readContent_le _hread
  rw [_h] at hle
  simp only [List.length_cons] at hle hmore
  omega

/-- Reads the arguments that set values of a chart. -/
def readValueArgs (lists : Bool) : List String → Option (List (String × Content))
  | ["--set", text] => readPairs lists (tokens text.toList)
  | _ => none

/-! ### Escaped text -/

/-- The characters have no meaning to the reader. -/
def Unmarked (cs : List Char) : Prop :=
  ∀ c ∈ cs, c ≠ '\\' ∧ c ≠ ',' ∧ c ≠ '='

/-- The token of an escaped character. -/
def escaped (c : Char) : Token :=
  if isValueMark c then .quoted c else .bare c

theorem isValueMark_iff : isValueMark c = true ↔ c = '\\' ∨ c = ',' ∨ c = '=' := by
  simp [isValueMark, or_assoc]

theorem Unmarked.isValueMark (h : Unmarked cs) (hc : c ∈ cs) : isValueMark c = false := by
  obtain ⟨hslash, hcomma, hequals⟩ := h c hc
  rw [Bool.eq_false_iff, ne_eq, isValueMark_iff]
  rintro (rfl | rfl | rfl)
  · exact hslash rfl
  · exact hcomma rfl
  · exact hequals rfl

theorem toList_escapeValue (s : String) :
    (escapeValue s).toList =
      s.toList.flatMap fun c => if isValueMark c then ['\\', c] else [c] := by
  rw [escapeValue, String.toList_ofList]

theorem escapeValue_append (s t : String) :
    escapeValue (s ++ t) = escapeValue s ++ escapeValue t := by
  simp only [escapeValue, String.toList_append, List.flatMap_append, String.ofList_append]

theorem escapeValue_of_unmarked {s : String} (h : Unmarked s.toList) : escapeValue s = s := by
  have hsame : (s.toList.flatMap fun c => if isValueMark c then ['\\', c] else [c]) =
      s.toList.flatMap fun c => [c] := by
    apply List.flatMap_congr
    intro c hc
    rw [h.isValueMark hc, if_neg Bool.false_ne_true]
  rw [escapeValue, hsame, List.flatMap_singleton', String.ofList_toList]

theorem tokens_cons_of_ne (h : c ≠ '\\') (rest : List Char) :
    tokens (c :: rest) = .bare c :: tokens rest := by
  rw [tokens]
  · exact fun _ _ hc => absurd hc h
  · exact fun hc => absurd hc h

/-- Escaped characters are read one by one, whatever comes after them. -/
theorem tokens_flatMap_append (cs rest : List Char) :
    tokens ((cs.flatMap fun c => if isValueMark c then ['\\', c] else [c]) ++ rest) =
      cs.map escaped ++ tokens rest := by
  induction cs with
  | nil => rfl
  | cons c cs ih =>
    rw [List.flatMap_cons, List.map_cons, List.append_assoc, List.cons_append, ← ih, escaped]
    by_cases hmark : isValueMark c = true
    · rw [if_pos hmark, if_pos hmark]
      rfl
    · have hslash : c ≠ '\\' := fun hc => hmark (isValueMark_iff.mpr (Or.inl hc))
      rw [if_neg hmark, if_neg hmark, List.singleton_append, tokens_cons_of_ne hslash]

theorem tokens_escapeValue_append (s : String) (rest : List Char) :
    tokens ((escapeValue s).toList ++ rest) = s.toList.map escaped ++ tokens rest := by
  rw [toList_escapeValue, tokens_flatMap_append]

theorem tokens_escapeValue (s : String) : tokens (escapeValue s).toList = s.toList.map escaped := by
  simpa [tokens] using tokens_escapeValue_append s []

theorem char_escaped (c : Char) : (escaped c).char = c := by
  rw [escaped]
  split <;> rfl

theorem plain_escaped (cs : List Char) : plain (cs.map escaped) = String.ofList cs := by
  simp only [plain, List.map_map, Function.comp_def, char_escaped, List.map_id']

theorem unescape_escapeValue (s : String) : unescape (escapeValue s) = s := by
  rw [unescape, tokens_escapeValue, plain_escaped, String.ofList_toList]

theorem escapeValue_injective : Function.Injective escapeValue :=
  Function.LeftInverse.injective unescape_escapeValue

/-- A character with a meaning has none where it is escaped. -/
theorem escaped_ne_bare {mark : Char} (h : isValueMark mark = true) (c : Char) :
    escaped c ≠ .bare mark := by
  rw [escaped]
  split
  · exact Token.noConfusion
  · rename_i hmark
    rintro hc
    cases hc
    exact hmark h

theorem escaped_of_unmarked (h : Unmarked cs) : cs.map escaped = cs.map .bare := by
  apply List.map_congr_left
  intro c hc
  rw [escaped, h.isValueMark hc, if_neg Bool.false_ne_true]

/-! ### Reading one pair -/

/-- The key of a pair is what stands in front of its equals sign. -/
theorem readPairs_key (hkey : Unmarked key.toList) (front : List Token) :
    readPairs lists (key.toList.map .bare ++ .bare '=' :: front) =
      match readContent lists front with
      | none => none
      | some (content, []) => some [(key, content)]
      | some (content, .bare ',' :: more) => (readPairs lists more).map ((key, content) :: ·)
      | some _ => none := by
  have hbare : ∀ t ∈ key.toList.map Token.bare, isWithinKey t = true := by
    intro t ht
    obtain ⟨c, hc, rfl⟩ := List.mem_map.mp ht
    obtain ⟨-, hcomma, hequals⟩ := hkey c hc
    simp [isWithinKey, hcomma, hequals]
  have hend : ¬isWithinKey (.bare '=') = true := by
    decide
  have hdrop := Template.dropWhile_stop hbare hend front
  have hplain : plain (key.toList.map Token.bare) = key := by
    rw [← escaped_of_unmarked hkey, plain_escaped, String.ofList_toList]
  rw [readPairs]
  split
  · rename_i hcons
    rw [hdrop] at hcons
    cases hcons
    rw [Template.takeWhile_stop hbare hend, hplain]
    split <;> simp_all
  · rename_i hother
    exact absurd hdrop (hother front)

example : readPairs true (tokens "a=1,b=\x7bx,y\\,z\x7d,c=\\\x7bq".toList) =
    some [("a", .text "1"), ("b", .list ["x", "y,z"]), ("c", .text "\x7bq")] := by
  decide +kernel

/-! ### Reading escaped values -/

theorem escaped_eq_bare_iff {mark : Char} (h : isValueMark mark = false) :
    escaped c = .bare mark ↔ c = mark := by
  rw [escaped]
  split
  · rename_i hc
    constructor
    · exact Token.noConfusion
    · rintro rfl
      rw [h] at hc
      cases hc
  · exact Token.bare.injEq c mark ▸ Iff.rfl

theorem escaped_ne_comma (c : Char) : escaped c ≠ .bare ',' :=
  escaped_ne_bare (show isValueMark ',' = true by decide) c

theorem readText_escaped (cs : List Char) :
    (cs.map escaped).takeWhile (fun t => t ≠ .bare ',') = cs.map escaped ∧
      (cs.map escaped).dropWhile (fun t => t ≠ .bare ',') = [] := by
  have hcomma : ∀ t ∈ cs.map escaped, decide (t ≠ .bare ',') = true := by
    intro t ht
    obtain ⟨c, -, rfl⟩ := List.mem_map.mp ht
    simpa using escaped_ne_comma c
  exact ⟨List.takeWhile_eq_self_iff.mpr hcomma, List.dropWhile_eq_nil_iff.mpr hcomma⟩

/-- An escaped value that does not begin with a brace is read as the text that it is. -/
theorem readContent_escaped (h : lists = true → cs.head? ≠ some '\x7b') :
    readContent lists (cs.map escaped) = some (.text (String.ofList cs), []) := by
  obtain ⟨htake, hdrop⟩ := readText_escaped cs
  rw [readContent]
  · rw [htake, hdrop, plain_escaped]
  · rintro body rfl hcs
    cases cs with
    | nil => cases hcs
    | cons c cs =>
      have hc := (escaped_eq_bare_iff (by decide)).mp (List.cons.inj hcs).1
      exact h rfl (congrArg some hc)

/-- An escaped value in an opening brace is read as a list of one item, up to its first closing
brace. -/
theorem readContent_escaped_brace (cs : List Char) :
    readContent true (('\x7b' :: cs).map escaped) =
      match cs.dropWhile fun c => c ≠ '\x7d' with
      | [] => none
      | _ :: after =>
        some (.list [String.ofList (cs.takeWhile fun c => c ≠ '\x7d')], after.map escaped) := by
  have hbrace : ((fun t => decide (t ≠ Token.bare '\x7d')) ∘ escaped) =
      fun c => decide (c ≠ '\x7d') := by
    funext c
    exact decide_eq_decide.mpr (not_congr (escaped_eq_bare_iff (by decide)))
  have hitems (item : List Char) :
      List.splitOn (.bare ',') (item.map escaped) = [item.map escaped] := by
    rw [List.splitOn_eq_splitOnP]
    apply List.splitOnP_eq_singleton
    intro t ht
    obtain ⟨c, -, rfl⟩ := List.mem_map.mp ht
    simpa using escaped_ne_comma c
  have hfront : escaped '\x7b' = .bare '\x7b' := rfl
  rw [List.map_cons, hfront, readContent]
  simp only [List.takeWhile_map, List.dropWhile_map, hbrace, hitems]
  cases cs.dropWhile fun c => c ≠ '\x7d' with
  | nil => rfl
  | cons c after => simp [plain_escaped]

/-! ### Reading arguments -/

theorem readValueArgs_escapeValue (hkey : Unmarked key.toList) (value : String) :
    readValueArgs lists (valueArgs key (escapeValue value)) =
      readPairs lists (key.toList.map .bare ++ .bare '=' :: value.toList.map escaped) := by
  have htokens : tokens (key ++ "=" ++ escapeValue value).toList =
      key.toList.map .bare ++ .bare '=' :: value.toList.map escaped := by
    have hfront := tokens_escapeValue_append key ('=' :: (escapeValue value).toList)
    rw [escapeValue_of_unmarked hkey, tokens_cons_of_ne (by decide), tokens_escapeValue,
      escaped_of_unmarked hkey] at hfront
    simpa using hfront
  rw [valueArgs, readValueArgs, htokens]

theorem readValueArgs_text (hkey : Unmarked key.toList)
    (h : lists = true → value.toList.head? ≠ some '\x7b') :
    readValueArgs lists (valueArgs key (escapeValue value)) = some [(key, .text value)] := by
  rw [readValueArgs_escapeValue hkey, readPairs_key hkey, readContent_escaped h,
    String.ofList_toList]

/-- A value in an opening brace is a list of one item if its first closing brace is its end;
otherwise it cannot be read. -/
theorem readValueArgs_brace (hkey : Unmarked key.toList) (hvalue : value.toList = '\x7b' :: cs) :
    readValueArgs true (valueArgs key (escapeValue value)) =
      match cs.dropWhile fun c => c ≠ '\x7d' with
      | [_] => some [(key, .list [String.ofList (cs.takeWhile fun c => c ≠ '\x7d')])]
      | _ => none := by
  rw [readValueArgs_escapeValue hkey, readPairs_key hkey, hvalue, readContent_escaped_brace]
  rcases cs.dropWhile fun c => c ≠ '\x7d' with _ | ⟨brace, _ | ⟨c, after⟩⟩
  · rfl
  · rfl
  · -- a comma that comes after the list would be escaped
    simp only [List.map_cons]
    split
    · rfl
    · rename_i heq
      cases heq
    · rename_i heq
      have hc := (List.cons.inj (Prod.mk.inj (Option.some.inj heq)).2).1
      exact absurd hc (escaped_ne_comma c)
    · rfl

/-! ### Values from templates -/

section Fill

open Template

variable {settings : Settings} {unit template name : String} {parts : List Part} {s : Setting}

theorem shown_escapeValue {part : Part} (h : ∀ cs, part = .text cs → Unmarked cs) :
    part.shown (textOf escapeValue settings unit) =
      (escapeValue (String.ofList (part.shown (textOf id settings unit)))).toList := by
  cases part with
  | text cs =>
    have hcs : Unmarked (String.ofList cs).toList := by
      rw [String.toList_ofList]
      exact h cs rfl
    rw [Part.shown, Part.shown, escapeValue_of_unmarked hcs, String.toList_ofList]
  | reference name =>
    rw [Part.shown, Part.shown, textOf, textOf, String.ofList_toList]
    cases settings.get? name (some unit) <;> rfl

theorem flatMap_shown_escapeValue (h : ∀ cs, .text cs ∈ parts → Unmarked cs) :
    String.ofList (parts.flatMap (Part.shown (textOf escapeValue settings unit))) =
      escapeValue (String.ofList (parts.flatMap (Part.shown (textOf id settings unit)))) := by
  have hshown : parts.flatMap (Part.shown (textOf escapeValue settings unit)) =
      parts.flatMap fun part =>
        (escapeValue (String.ofList (part.shown (textOf id settings unit)))).toList := by
    apply List.flatMap_congr
    intro part hpart
    exact shown_escapeValue fun cs hcs => h cs (hcs ▸ hpart)
  rw [hshown]
  simp only [escapeValue, String.toList_ofList, List.flatMap_assoc]

/-- To fill a template with escaped values is to escape what it is filled with, if its own text
needs no escaping. -/
theorem fill_escapeValue (hcut : Cut template.toList parts)
    (hplain : ∀ cs, .text cs ∈ parts → Unmarked cs) :
    fill escapeValue settings unit template = (fill id settings unit template).map escapeValue := by
  have hsame (parts : List Part) : Resolved (textOf id settings unit) parts ↔
      Resolved (textOf escapeValue settings unit) parts := by
    rw [resolved_textOf_iff, resolved_textOf_iff]
  rcases resolved_or_first (textOf id settings unit) parts with
    hresolved | ⟨before, name, after, rfl, hbefore, hname⟩
  · rw [fill_of_resolved hcut hresolved, fill_of_resolved hcut ((hsame _).mp hresolved),
      flatMap_shown_escapeValue hplain]
    rfl
  · have hname' : textOf escapeValue settings unit name = none :=
      Option.map_eq_none_iff.mpr (Option.map_eq_none_iff.mp hname)
    rw [fill_of_unresolved hcut hbefore hname,
      fill_of_unresolved hcut ((hsame _).mp hbefore) hname']
    rfl

/-- Values in a template whose own text has no backslash, comma or equals sign, under a key without
them, are read as one pair of the key and of what the template is filled with.  Escaping is undone
by reading, loses nothing and goes part by part. -/
theorem readValueArgs_fill (hkey : Unmarked key.toList) (hcut : Cut template.toList parts)
    (hplain : ∀ cs, .text cs ∈ parts → Unmarked cs) (settings : Settings) (unit : String) :
    (fill escapeValue settings unit template).map
        (fun text => readValueArgs false (valueArgs key text)) =
      (fill id settings unit template).map (fun text => some [(key, .text text)]) ∧
    (∀ value, unescape (escapeValue value) = value) ∧ Function.Injective escapeValue ∧
      ∀ front back, escapeValue (front ++ back) = escapeValue front ++ escapeValue back := by
  refine ⟨?_, unescape_escapeValue, escapeValue_injective, escapeValue_append⟩
  rw [fill_escapeValue hcut hplain]
  cases fill id settings unit template with
  | error e => rfl
  | ok text =>
    simp only [Except.map]
    rw [readValueArgs_text hkey (by simp)]

/-- A shared setting `x` that a user gave this value. -/
def holding (value : String) : Settings :=
  ⟨[{ name := "x", default := .string "", choice := .given (.string value) true }]⟩

theorem readValueArgs_fill_holding :
    fill escapeValue (holding "a,b=c\\") "git" "host-$\x7bx\x7d" = .ok "host-a\\,b\\=c\\\\" ∧
      readValueArgs false (valueArgs "ingress.host" "host-a\\,b\\=c\\\\") =
        some [("ingress.host", .text "host-a,b=c\\")] := by
  have hkey : Unmarked "ingress.host".toList := by
    simp [Unmarked]
  have hcut : Cut "host-$\x7bx\x7d".toList [.text "host-".toList, .reference "x", .text []] :=
    @cut_around "x" "host-".toList [] (by simp [IsName]) (by simp) (by simp)
  have hplain : ∀ cs, .text cs ∈
      [Part.text "host-".toList, .reference "x", .text []] → Unmarked cs := by
    simp [Unmarked]
  have hread := (readValueArgs_fill hkey hcut hplain (holding "a,b=c\\") "git").1
  have hfill : fill escapeValue (holding "a,b=c\\") "git" "host-$\x7bx\x7d" =
      .ok "host-a\\,b\\=c\\\\" := by
    decide +kernel
  have hplainFill : fill id (holding "a,b=c\\") "git" "host-$\x7bx\x7d" =
      .ok "host-a,b=c\\" := by
    decide +kernel
  rw [hfill, hplainFill] at hread
  exact ⟨hfill, Except.ok.inj hread⟩

/-! ### Values in braces -/

theorem readValueArgs_text_iff (hkey : Unmarked key.toList) (value : String) :
    readValueArgs true (valueArgs key (escapeValue value)) = some [(key, .text value)] ↔
      value.toList.head? ≠ some '\x7b' := by
  constructor
  · intro hread hbrace
    obtain ⟨cs, hcs⟩ := List.head?_eq_some_iff.mp hbrace
    rw [readValueArgs_brace hkey hcs] at hread
    split at hread
    · simp at hread
    · cases hread
  · intro h
    exact readValueArgs_text hkey fun _ => h

/-- A text without closing braces ends at the brace that comes after it. -/
theorem cut_at_brace {front : List Char} (h : '\x7d' ∉ front) (rest : List Char) :
    (front ++ '\x7d' :: rest).takeWhile (fun c => c ≠ '\x7d') = front ∧
      (front ++ '\x7d' :: rest).dropWhile (fun c => c ≠ '\x7d') = '\x7d' :: rest := by
  have hfront : ∀ c ∈ front, decide (c ≠ '\x7d') = true := by
    intro c hc
    rw [decide_eq_true_eq]
    rintro rfl
    exact h hc
  exact ⟨takeWhile_stop hfront (by simp) rest, dropWhile_stop hfront (by simp) rest⟩

theorem readValueArgs_item_iff (hkey : Unmarked key.toList) (item : String) :
    readValueArgs true (valueArgs key (escapeValue ("\x7b" ++ item ++ "\x7d"))) =
        some [(key, .list [item])] ↔
      '\x7d' ∉ item.toList := by
  have hvalue : ("\x7b" ++ item ++ "\x7d").toList = '\x7b' :: (item.toList ++ ['\x7d']) := by
    simp
  rw [readValueArgs_brace hkey hvalue]
  constructor
  · intro hread hmem
    -- the list would end within the item
    obtain ⟨front, back, hitem, hfront⟩ := List.eq_append_cons_of_mem hmem
    rw [hitem, List.append_assoc, List.cons_append, (cut_at_brace hfront _).2] at hread
    cases back <;> cases hread
  · intro h
    obtain ⟨htake, hdrop⟩ := cut_at_brace h []
    rw [htake, hdrop, String.ofList_toList]

/-- How a reader that knows lists reads a value that stands for itself, and one behind `git.` in
braces: the first is read as the text that it is if and only if it does not begin with an opening
brace, the second as one item if and only if it has no closing brace. -/
theorem readValueArgs_braces (hkey : Unmarked key.toList) (hname : IsName name)
    (hget : settings.get? name (some unit) = some s) :
    ∃ single listed,
      fill escapeValue settings unit (mention name) = .ok single ∧
      fill escapeValue settings unit ("\x7bgit." ++ mention name ++ "\x7d") = .ok listed ∧
      (readValueArgs true (valueArgs key single) = some [(key, .text s.value.text)] ↔
        s.value.text.toList.head? ≠ some '\x7b') ∧
      (readValueArgs true (valueArgs key listed) = some [(key, .list ["git." ++ s.value.text])] ↔
        '\x7d' ∉ s.value.text.toList) := by
  refine ⟨_, _, fill_mention hname hget, fill_around hname (by decide) (by decide) hget,
    readValueArgs_text_iff hkey _, ?_⟩
  have hlisted : "\x7bgit." ++ escapeValue s.value.text ++ "\x7d" =
      escapeValue ("\x7b" ++ ("git." ++ s.value.text) ++ "\x7d") := by
    rw [escapeValue_append, escapeValue_append, escapeValue_append, ← String.append_assoc]
    rfl
  rw [hlisted, readValueArgs_item_iff hkey]
  simp

theorem readValueArgs_braces_holding :
    ∃ single listed,
      fill escapeValue (holding "a,\x7b") "git" (mention "x") = .ok single ∧
      fill escapeValue (holding "a,\x7b") "git" ("\x7bgit." ++ mention "x" ++ "\x7d") =
        .ok listed ∧
      readValueArgs true (valueArgs "ingress.hosts" single) =
        some [("ingress.hosts", .text "a,\x7b")] ∧
      readValueArgs true (valueArgs "ingress.hosts" listed) =
        some [("ingress.hosts", .list ["git.a,\x7b"])] := by
  have hkey : Unmarked "ingress.hosts".toList := by
    simp [Unmarked]
  have hname : IsName "x" := by simp [IsName]
  have hget : (holding "a,\x7b").get? "x" (some "git") = (holding "a,\x7b").entries.head? := rfl
  obtain ⟨single, listed, hsingle, hlisted, htext, hitem⟩ :=
    readValueArgs_braces hkey hname hget
  exact ⟨single, listed, hsingle, hlisted, htext.mpr (by decide), hitem.mpr (by decide)⟩

/-- A value in braces is read as a list, and behind `git.` in braces it cannot be read. -/
theorem readValueArgs_braces_nested :
    fill escapeValue (holding "\x7ba\x7d") "git" "$\x7bx\x7d" = .ok "\x7ba\x7d" ∧
      readValueArgs true (valueArgs "ingress.hosts" "\x7ba\x7d") =
        some [("ingress.hosts", .list ["a"])] ∧
      fill escapeValue (holding "\x7ba\x7d") "git" "\x7bgit.$\x7bx\x7d\x7d" =
        .ok "\x7bgit.\x7ba\x7d\x7d" ∧
      readValueArgs true (valueArgs "ingress.hosts" "\x7bgit.\x7ba\x7d\x7d") = none := by
  refine ⟨?_, ?_, ?_, ?_⟩
  · decide +kernel
  · decide +kernel
  · decide +kernel
  · decide +kernel

end Fill

end Groundwork.ValueText
