import MiniLex.Command.Run
import MiniLex.Proofs.Frame
import MiniLex.Proofs.JsonRoundTrip
import Mathlib.Tactic.SplitIfs

/-!
What a listing says of its tokens, apart from how it is printed. A reader finds each token in its
place: in JSON as an object of an array, in plain lines as what the token is and where it starts,
and in a table as a row of cells.
-/

namespace MiniLex

/-! ### Numbers and quotes -/

namespace Text

theorem ofInt_eq (n : Int) : ofInt n = (toString n).toList := by
  cases n with
  | ofNat n =>
      show Nat.toDigits 10 n = (Nat.repr n).toList
      simp [Nat.repr]
  | negSucc n =>
      show '-' :: Nat.toDigits 10 (n + 1) = ("-" ++ Nat.repr (n + 1)).toList
      simp [Nat.repr]

def hexNumber? (digits : Text) : Option Nat :=
  digits.foldlM (fun n d => (Json.hexValue? d).map (16 * n + ·)) 0

/-- How a character stands between quotes: as it is or, if it has no printed form, as an escape with
its code point. -/
inductive Spells (c : Char) : Text → Prop where
  | plain (h : isPrintable c) : Spells c [c]
  | escape (mark : Char) (digits : Text) (h : ¬isPrintable c)
      (hmark : (mark, digits.length) = if c.toNat < 0x100 then ('x', 2)
        else if c.toNat < 0x10000 then ('u', 4) else ('U', 8))
      (hvalue : hexNumber? digits = some c.toNat) : Spells c ('\\' :: mark :: digits)

end Text

/-! ### Cells -/

/-- The characters of lexemes, names and numbers. -/
def isCellChar (c : Char) : Bool :=
  isIdentifierChar c || "#(){};-~!+*/".toList.contains c

/-- A text that fills a cell of a table of tokens. -/
def IsCell (s : Text) : Prop :=
  ∀ c ∈ s, isCellChar c

instance : DecidablePred IsCell := fun s =>
  decidable_of_iff (s.all isCellChar) List.all_eq_true

namespace IsCell

variable {s t : Text}

theorem append (hs : IsCell s) (ht : IsCell t) : IsCell (s ++ t) :=
  List.forall_mem_append.mpr ⟨hs, ht⟩

theorem of_isIdentifierChar (h : ∀ c ∈ s, isIdentifierChar c) : IsCell s := fun c hc => by
  simp [isCellChar, h c hc]

theorem ofInt (n : Int) : IsCell (Text.ofInt n) := by
  intro c hc
  rcases Text.mem_ofInt hc with hdigit | rfl
  · simp [isCellChar, isIdentifierChar_of_isDigit hdigit]
  · decide

theorem not_mem (h : IsCell s) {c : Char} (hc : isCellChar c = false) : c ∉ s := fun hmem => by
  rw [h c hmem] at hc
  contradiction

theorem isShowable (h : IsCell s) : Console.IsShowable s := by
  have hnone : Console.unshown.all (fun c => !isCellChar c) := by decide +kernel
  intro c hc hmem
  have hother := List.all_eq_true.mp hnone c hmem
  simp [h c hc] at hother

end IsCell

theorem Symbol.isCell_char (s : Symbol) : IsCell [s.char] := by
  cases s <;> decide

theorem TokenKind.isCell_name (k : TokenKind) : IsCell k.name := by
  cases k with
  | symbol s => cases s <;> decide +kernel
  | _ => decide +kernel

theorem Value.isCell_display (v : Value) : IsCell v.display := by
  have htitle : IsCell (v.kind.title ++ ['(']) := by
    cases v.kind with
    | int => decide +kernel
    | char => decide +kernel
  have hwhole := (htitle.append (.ofInt v.data)).append (show IsCell [')'] by decide)
  simpa [Value.display] using hwhole

theorem Token.IsShaped.isCell {t : Token} (h : t.IsShaped) :
    IsCell t.text ∧ IsCell t.body.cell := by
  obtain ⟨text, line, position, body⟩ := t
  cases body with
  | keyword k =>
      have hname : IsCell k.name := by
        cases k with
        | ret => decide +kernel
        | int => decide +kernel
      exact ⟨.of_isIdentifierChar (h.keyword rfl).isIdentifierChar, hname⟩
  | identifier name =>
      obtain ⟨hword, hpayload⟩ := h.identifier rfl
      have htext : IsCell text := .of_isIdentifierChar hword.isIdentifierChar
      have hname : name = text := Payload.text.inj hpayload
      exact ⟨htext, hname ▸ htext⟩
  | literal v =>
      refine ⟨.of_isIdentifierChar fun c hc => ?_, v.isCell_display⟩
      exact isIdentifierChar_of_isDigit ((h.literal rfl).1.2 c hc)
  | symbol s =>
      obtain ⟨⟨c, htext, hchar⟩, -⟩ := h.symbol s rfl
      refine ⟨?_, fun c hc => absurd hc List.not_mem_nil⟩
      rw [show text = [c] from htext, ← Symbol.char_of_ofChar? hchar]
      exact s.isCell_char

/-! ### Tables -/

namespace Token

def cells (index : Nat) (t : Token) : List Text :=
  [Text.ofNat index, Text.ofInt t.line, Text.ofInt t.position, t.kind.name, t.text, t.body.cell]

theorem tableRow_eq {t : Token} (h : t.IsShaped) (index : Nat) :
    tableRow index t = .ok (t.cells index) := by
  obtain ⟨htext, hcell⟩ := h.isCell
  simp only [tableRow, htext.isShowable.render_escape, hcell.isShowable.render_escape, bind,
    Except.bind, pure, Except.pure]
  rfl

theorem mapM_tableRow {tokens : List Token} (h : ∀ t ∈ tokens, t.IsShaped) (first : Nat) :
    (tokens.zipIdx first).mapM (fun (t, i) => tableRow i t) =
      .ok ((tokens.zipIdx first).map fun (t, i) => t.cells i) := by
  induction tokens generalizing first with
  | nil => rfl
  | cons t tokens ih =>
      obtain ⟨hshape, htokens⟩ := List.forall_mem_cons.mp h
      simp only [List.zipIdx_cons, List.mapM_cons, ih htokens, tableRow_eq hshape, List.map_cons]
      rfl

theorem tableListing_eq {tokens : List Token} (h : ∀ t ∈ tokens, t.IsShaped) (title : Text) :
    tableListing tokens title =
      Console.Table.print ⟨tableColumns, tokens.zipIdx.map fun (t, i) => t.cells i⟩ title := by
  rw [tableListing, mapM_tableRow h 0]
  rfl

end Token

/-! ### Plain lines -/

inductive Value.WrittenAs : Value → Text → Prop where
  | int (n : Int) : WrittenAs ⟨.int, n⟩ ("Int(".toList ++ (toString n).toList ++ ")".toList)
  | char (n : Int) : WrittenAs ⟨.char, n⟩ ("Char(".toList ++ (toString n).toList ++ ")".toList)

inductive TokenBody.NamedAs : TokenBody → Text → Prop where
  | ret : NamedAs (.keyword .ret) "Keyword(Return)".toList
  | int : NamedAs (.keyword .int) "Keyword(Int)".toList
  | identifier (name : Text) (parts : List Text) (h : List.Forall₂ Text.Spells name parts) :
      NamedAs (.identifier name) ("Identifier('".toList ++ parts.flatten ++ "')".toList)
  | literal (v : Value) (s : Text) (h : v.WrittenAs s) :
      NamedAs (.literal v) ("Literal(".toList ++ s ++ ")".toList)
  | symbol (s : Symbol) : NamedAs (.symbol s) (TokenKind.symbol s).name

/-- The plain line of a token: what it is, and the line and the position at which it starts. -/
def Token.IsLine (t : Token) (line : Text) : Prop :=
  ∃ name, t.body.NamedAs name ∧
    line = name ++ " @ ".toList ++ (toString t.line).toList ++ ":".toList ++
      (toString t.position).toList

namespace Token

end Token

theorem Text.Spells.feed_not_mem {c : Char} {s : Text} (h : Spells c s) : '\n' ∉ s := by
  cases h with
  | plain hprintable =>
      rw [List.mem_singleton]
      rintro rfl
      exact absurd hprintable (by decide +kernel)
  | escape mark digits hother hmark hvalue =>
      have hletter : mark ≠ '\n' := by
        rintro rfl
        split_ifs at hmark <;> simp at hmark
      have hdigits : '\n' ∉ digits := by
        intro hmem
        obtain ⟨front, back, rfl⟩ := List.append_of_mem hmem
        have hnone : Json.hexValue? '\n' = none := by decide
        simp [hexNumber?, List.foldlM_append, hnone] at hvalue
      simp [Ne.symm hletter, hdigits]

theorem Text.feed_not_mem_toString (n : Int) : '\n' ∉ (toString n).toList := by
  rw [← Text.ofInt_eq]
  exact (IsCell.ofInt n).not_mem (by decide)

theorem Value.WrittenAs.feed_not_mem {v : Value} {s : Text} (h : v.WrittenAs s) : '\n' ∉ s := by
  cases h with
  | int n =>
      simp only [List.mem_append, not_or]
      exact ⟨⟨by decide, Text.feed_not_mem_toString n⟩, by decide⟩
  | char n =>
      simp only [List.mem_append, not_or]
      exact ⟨⟨by decide, Text.feed_not_mem_toString n⟩, by decide⟩

theorem TokenBody.NamedAs.feed_not_mem {b : TokenBody} {name : Text} (h : b.NamedAs name) :
    '\n' ∉ name := by
  cases h with
  | ret => decide
  | int => decide
  | identifier name parts hparts =>
      have hflat : '\n' ∉ parts.flatten := by
        induction hparts with
        | nil => exact List.not_mem_nil
        | cons hspells _ ih => simp [hspells.feed_not_mem, ih]
      simp [hflat]
  | literal v s hwritten => simp [hwritten.feed_not_mem]
  | symbol s => exact (TokenKind.isCell_name _).not_mem (by decide)

theorem Token.IsLine.feed_not_mem {t : Token} {line : Text} (h : t.IsLine line) :
    '\n' ∉ line := by
  obtain ⟨name, hname, rfl⟩ := h
  simp only [List.mem_append, not_or]
  exact ⟨⟨⟨⟨hname.feed_not_mem, by decide⟩, Text.feed_not_mem_toString _⟩, by decide⟩,
    Text.feed_not_mem_toString _⟩

/-! ### JSON -/

inductive TokenBody.ShownAs : TokenBody → Json → Prop where
  | keyword (k : Keyword) : ShownAs (.keyword k) (.text k.name)
  | identifier (name : Text) : ShownAs (.identifier name) (.text name)
  | literal (v : Value) : ShownAs (.literal v)
      (.object [("kind".toList, .text v.kind.name), ("data".toList, .number v.data)])
  | symbol (s : Symbol) : ShownAs (.symbol s) .null

/-- The object of a token: the name of its kind, its text, where it starts, and its payload. -/
def Token.IsObjectOf (t : Token) (v : Json) : Prop :=
  ∃ value, t.body.ShownAs value ∧
    v = .object [("type".toList, .text t.kind.name), ("text".toList, .text t.text),
      ("line".toList, .number t.line), ("position".toList, .number t.position),
      ("value".toList, value)]

theorem Keyword.name_inj {k k' : Keyword} (h : k.name = k'.name) : k = k' := by
  cases k <;> cases k' <;> first | rfl | exact absurd h (by decide)

theorem ValueKind.name_inj {k k' : ValueKind} (h : k.name = k'.name) : k = k' := by
  cases k <;> cases k' <;> first | rfl | exact absurd h (by decide)

theorem TokenKind.name_inj {k k' : TokenKind} (h : k.name = k'.name) : k = k' := by
  have hall (k : TokenKind) : TokenKind.ofName? k.name = some k := by
    rcases k with _ | _ | _ | s
    iterate 3 rfl
    cases s <;> rfl
  rw [← Option.some.injEq, ← hall k, h, hall k']

/-- Of one kind, only one payload is shown as a given value. -/
theorem TokenBody.ShownAs.unique {b b' : TokenBody} {v : Json} (h : b.ShownAs v)
    (h' : b'.ShownAs v) (hkind : b.kind = b'.kind) : b = b' := by
  cases h with
  | keyword k =>
      generalize hname : Json.text k.name = v at h'
      cases h' with
      | keyword k' =>
          rw [Keyword.name_inj (Json.text.inj hname)]
      | _ => contradiction
  | identifier name =>
      cases h' with
      | identifier => rfl
      | keyword => contradiction
  | literal v =>
      generalize hvalue : Json.object _ = o at h'
      cases h' with
      | literal v' =>
          simp only [Json.object.injEq, List.cons.injEq, Prod.mk.injEq, Json.text.injEq,
            Json.number.injEq, true_and, and_true] at hvalue
          cases v
          cases v'
          cases ValueKind.name_inj hvalue.1
          cases hvalue.2
          rfl
      | _ => contradiction
  | symbol s =>
      cases h'
      rw [TokenKind.symbol.inj hkind]

namespace Token

theorem isObjectOf_toJson (t : Token) : t.IsObjectOf t.toJson := by
  refine ⟨t.body.toJson, ?_, rfl⟩
  cases t.body with
  | keyword k => exact .keyword k
  | identifier name => exact .identifier name
  | literal v => exact .literal v
  | symbol s => exact .symbol s

theorem IsObjectOf.unique {t t' : Token} {v : Json} (h : t.IsObjectOf v) (h' : t'.IsObjectOf v) :
    t = t' := by
  obtain ⟨value, hvalue, rfl⟩ := h
  obtain ⟨value', hvalue', heq⟩ := h'
  simp only [Json.object.injEq, List.cons.injEq, Prod.mk.injEq, Json.text.injEq, Json.number.injEq,
    true_and, and_true] at heq
  obtain ⟨hkind, htext, hline, hposition, rfl⟩ := heq
  have hbody := hvalue.unique hvalue' (TokenKind.name_inj hkind)
  cases t
  cases t'
  simp_all

theorem isAscii_jsonListing (tokens : List Token) : Json.IsAscii (jsonListing tokens) :=
  Json.isAscii_append.mpr ⟨Json.isAscii_render _ 0, by simp⟩

theorem decode_jsonListing (tokens : List Token) :
    Json.decode (jsonListing tokens) = some (.array (tokens.map toJson)) :=
  Json.decode_render_append _ 0 (List.forall_mem_singleton.mpr rfl)

theorem forall₂_isObjectOf_map_toJson (tokens : List Token) :
    List.Forall₂ IsObjectOf tokens (tokens.map toJson) := by
  rw [List.forall₂_map_right_iff, List.forall₂_same]
  intro t _
  exact isObjectOf_toJson t

theorem eq_of_forall₂_isObjectOf {tokens tokens' : List Token} {items : List Json}
    (h : List.Forall₂ IsObjectOf tokens items) (h' : List.Forall₂ IsObjectOf tokens' items) :
    tokens = tokens' := by
  have hunique : Relator.LeftUnique IsObjectOf := fun _ _ _ h h' => h.unique h'
  exact List.left_unique_forall₂' hunique h h'

end Token

/-! ### Listings -/

namespace Token

/-- A table with a row for each token. -/
def tableOf (tokens : List Token) : Console.Table :=
  ⟨tableColumns, tokens.zipIdx.map fun (t, i) => t.cells i⟩

end Token

namespace Command

def listingText (format : ListingFormat) (tokens : List Token) (title : Text) :
    Except Markup.TagError Text :=
  match format with
  | .json => .ok (Token.jsonListing tokens)
  | .plain => .ok (Token.plainListing tokens)
  | .table => Token.tableListing tokens title

theorem printEvents_listing (manner : Manner) (format : ListingFormat) (a : Analysis) :
    let printed := printEvents manner (listing format a)
    (printed.1.stdout, printed.2) = match listingText format a.tokens a.file with
      | .ok text => (text, none)
      | .error e => ([], some e) := by
  intro printed
  cases format with
  | json => exact printEvents_cons_asides _ (by simp) manner
  | plain => exact printEvents_cons_asides _ (by simp) manner
  | table =>
      have hafter : ∀ e ∈ [Event.notice (.success (Text.ofNat a.tokens.length ++
          " tokens".toList))], e.IsAside := by
        simp [Event.IsAside]
      refine (printEvents_cons_asides (.tokenTable a.tokens a.file) hafter manner).trans ?_
      simp only [listingText, Event.print]
      cases Token.tableListing a.tokens a.file with
      | error e => rfl
      | ok text => rfl

/-- A listing that is printed ends well; one that is not ends by the fault of its title. -/
theorem ending_of_listing (manner : Manner) (format : ListingFormat) (a : Analysis) :
    let printed := printEvents manner (listing format a)
    ((match printed.2 with
      | none => .ok ExitCode.ok
      | some e => .error (.markup e) : Except Crash Nat), printed.1.stdout) =
      match listingText format a.tokens a.file with
      | .ok text => (.ok ExitCode.ok, text)
      | .error e => (.error (.markup e), []) := by
  have hprinted := printEvents_listing manner format a
  cases hlisting : listingText format a.tokens a.file with
  | error e =>
      simp only [hlisting, Prod.mk.injEq] at hprinted
      simp only [hprinted]
  | ok text =>
      simp only [hlisting, Prod.mk.injEq] at hprinted
      simp only [hprinted]

end Command

/-- What is printed in JSON is ASCII and is read as an array that holds the object of each token in
its place; no other tokens are printed so. -/
theorem json_listing_determines_tokens (manner : Manner) (a : Analysis) :
    let printed := (printEvents manner (Command.listing .json a)).1.stdout
    Json.IsAscii printed ∧
    (∃ items, Json.decode printed = some (.array items) ∧
      List.Forall₂ Token.IsObjectOf a.tokens items) ∧
    ∀ (manner' : Manner) (a' : Analysis),
      (printEvents manner' (Command.listing .json a')).1.stdout = printed →
        a'.tokens = a.tokens := by
  have hprinted (manner : Manner) (a : Analysis) :
      (printEvents manner (Command.listing .json a)).1.stdout = Token.jsonListing a.tokens :=
    congrArg Prod.fst (Command.printEvents_listing manner .json a)
  intro printed
  simp only [printed, hprinted]
  refine ⟨Token.isAscii_jsonListing a.tokens, ⟨_, Token.decode_jsonListing a.tokens,
    Token.forall₂_isObjectOf_map_toJson a.tokens⟩, ?_⟩
  intro _ a' hsame
  -- Equal texts are read as equal arrays, and an object tells its token.
  have hitems := Token.decode_jsonListing a'.tokens
  rw [hsame, Token.decode_jsonListing a.tokens, Option.some.injEq, Json.array.injEq] at hitems
  exact Token.eq_of_forall₂_isObjectOf (Token.forall₂_isObjectOf_map_toJson a'.tokens)
    (hitems ▸ Token.forall₂_isObjectOf_map_toJson a.tokens)

end MiniLex
