import Mathlib.Logic.Basic
import TokenIntake.Proofs.Message.Decode
import TokenIntake.Proofs.Message.Uint128

namespace TokenIntake

namespace Mapping

variable {α : Type} (es : Mapping) (name : Text)

def Has (form : Value → Prop) : Prop := ∃ v, es.field? name = some v ∧ form v

def MayHave (form : Value → Prop) : Prop := ∀ v, es.field? name = some v → v = .null ∨ form v

def Sets : Prop := ∃ v, es.field? name = some v ∧ v ≠ .null

def Gives (form : Value → α → Prop) (a : α) : Prop := ∃ v, es.field? name = some v ∧ form v a

def MayGive (form : Value → α → Prop) : Option α → Prop
  | some a => ∃ v, es.field? name = some v ∧ v ≠ .null ∧ form v a
  | none => ¬es.Sets name

end Mapping

namespace Value

def IsObject (fields : Mapping → Prop) (v : Value) : Prop := ∃ es, v.entries? = some es ∧ fields es

/-- Sets and pairs pass for lists. -/
def IsListOf (form : Value → Prop) (v : Value) : Prop := ∃ xs, v.items? = some xs ∧ ∀ x ∈ xs, form x

/-- Bytes pass for the text that they encode. -/
def GivesText (v : Value) (t : Text) : Prop :=
  v = .text t ∨ ∃ bs, v = .scalar (.bytes bs) ∧ Utf8.decode bs = .ok t

def GivesUtf8Text (v : Value) (t : Text) : Prop := v.GivesText t ∧ t.hasSurrogate = false

def IsText (v : Value) : Prop := ∃ t, v.GivesText t

def IsUtf8Text (v : Value) : Prop := ∃ t, v.GivesUtf8Text t

def IsByte (v : Value) : Prop := ∃ n : Nat, v = .int n ∧ n ≤ 255

def IsAmount (v : Value) : Prop :=
  (∃ n : Nat, v = .int n ∧ n < 2 ^ 128) ∨
    ∃ t : Text, v = .text t ∧ Uint128.IsNumeral t ∧ t.digitsValue < 2 ^ 128

def IsAllocation : Value → Prop := IsObject fun es => es.Has "address" IsText ∧ es.Has "amount" IsAmount

def IsMinter : Value → Prop := IsObject fun es => es.Has "minter" IsText ∧ es.MayHave "cap" IsAmount

def IsImage : Value → Prop := IsObject fun es =>
  es.MayHave "svg" IsText ∧ es.MayHave "png" IsText ∧ Xor (es.Sets "svg") (es.Sets "png")

def IsLogo : Value → Prop := IsObject fun es =>
  es.MayHave "url" IsText ∧ es.MayHave "embedded" IsImage ∧ Xor (es.Sets "url") (es.Sets "embedded")

def IsMarketing : Value → Prop := IsObject fun es =>
  es.MayHave "project" IsText ∧ es.MayHave "description" IsText ∧ es.MayHave "marketing" IsText ∧
    es.MayHave "logo" IsLogo

def IsMessage : Value → Prop := IsObject fun es =>
  es.Has "name" IsUtf8Text ∧ es.Has "symbol" IsUtf8Text ∧ es.Has "decimals" IsByte ∧
    es.Has "initial_balances" (IsListOf IsAllocation) ∧ es.MayHave "mint" IsMinter ∧
    es.MayHave "marketing" IsMarketing

def GivesByte (v : Value) (n : Fin 256) : Prop := v = .int n.val

def GivesAmount (v : Value) (u : Uint128) : Prop :=
  v = .int u.val ∨ ∃ t : Text, v = .text t ∧ Uint128.IsNumeral t ∧ t.digitsValue = u.val

def GivesListOf {α : Type} (form : Value → α → Prop) (v : Value) (as : List α) : Prop :=
  ∃ xs, v.items? = some xs ∧ List.Forall₂ form xs as

def GivesAllocation (v : Value) (a : Allocation) : Prop :=
  v.IsObject fun es => es.Gives "address" GivesText a.address ∧ es.Gives "amount" GivesAmount a.amount

def GivesMinter (v : Value) (m : Minter) : Prop :=
  v.IsObject fun es => es.Gives "minter" GivesText m.minter ∧ es.MayGive "cap" GivesAmount m.cap

def GivesImage (v : Value) : Image → Prop
  | .svg data => v.IsObject fun es => es.MayGive "svg" GivesText (some data) ∧ es.MayGive "png" GivesText none
  | .png data => v.IsObject fun es => es.MayGive "svg" GivesText none ∧ es.MayGive "png" GivesText (some data)

def GivesLogo (v : Value) : Logo → Prop
  | .url link => v.IsObject fun es => es.MayGive "url" GivesText (some link) ∧ es.MayGive "embedded" GivesImage none
  | .embedded image =>
    v.IsObject fun es => es.MayGive "url" GivesText none ∧ es.MayGive "embedded" GivesImage (some image)

def GivesMarketing (v : Value) (m : Marketing) : Prop :=
  v.IsObject fun es =>
    es.MayGive "project" GivesText m.project ∧ es.MayGive "description" GivesText m.description ∧
      es.MayGive "marketing" GivesText m.marketing ∧ es.MayGive "logo" GivesLogo m.logo

def GivesMessage (v : Value) (m : Message) : Prop :=
  v.IsObject fun es =>
    es.Gives "name" GivesUtf8Text m.name ∧ es.Gives "symbol" GivesUtf8Text m.symbol ∧
      es.Gives "decimals" GivesByte m.decimals ∧
      es.Gives "initial_balances" (GivesListOf GivesAllocation) m.balances ∧
      es.MayGive "mint" GivesMinter m.mint ∧ es.MayGive "marketing" GivesMarketing m.marketing

end Value

open Value Decoded

namespace Decoded

variable {α : Type} {read : Value → Decoded α} {form : Value → α → Prop}

def Reads (read : Value → Decoded α) (form : Value → α → Prop) : Prop := ∀ v a, read v = .good a ↔ form v a

theorem Reads.required (reads : Reads read form) (name : Text) (es : Mapping) (a : α) :
    required name read es = .good a ↔ es.Gives name form a := by
  simp only [required_eq_good_iff, Mapping.Gives, reads _ a]

theorem Reads.optional (reads : Reads read form) (name : Text) (es : Mapping) (o : Option α) :
    optional name read es = .good o ↔ es.MayGive name form o := by
  cases o with
  | none => simp [optional_eq_good_none_iff, Mapping.MayGive, Mapping.Sets]
  | some a => simp only [optional_eq_good_some_iff, Mapping.MayGive, reads _ a]

theorem Reads.list (reads : Reads read form) : Reads (list read) (GivesListOf form) := by
  intro v as
  have same : (fun v a => read v = .good a) = form := by
    funext v a
    exact propext (reads v a)
  rw [list_eq_good_iff, same, GivesListOf]

theorem plainText_reads : Reads plainText GivesText := fun _ _ => plainText_eq_good_iff

theorem utf8Text_reads : Reads utf8Text GivesUtf8Text := fun _ _ =>
  utf8Text_eq_good_iff.trans (and_congr_left fun _ => plainText_eq_good_iff)

theorem byte_reads : Reads byte GivesByte := fun _ _ => byte_eq_good_iff

theorem uint128_reads : Reads uint128 GivesAmount := by
  intro v u
  rw [uint128_eq_good_iff, Uint128.ofValue_eq_ok_iff]
  rfl

end Decoded

theorem Allocation.decode_reads : Reads Allocation.decode GivesAllocation := by
  intro v a
  simp only [Allocation.decode, object_eq_good_iff, seq_eq_good_iff, map_eq_good_iff,
    plainText_reads.required, uint128_reads.required]
  constructor
  · rintro ⟨es, mapping, _, ⟨_, address, rfl⟩, _, amount, rfl⟩
    exact ⟨es, mapping, address, amount⟩
  · rintro ⟨es, mapping, address, amount⟩
    exact ⟨es, mapping, _, ⟨_, address, rfl⟩, _, amount, rfl⟩

theorem Minter.decode_reads : Reads Minter.decode GivesMinter := by
  intro v m
  simp only [Minter.decode, object_eq_good_iff, seq_eq_good_iff, map_eq_good_iff,
    plainText_reads.required, uint128_reads.optional]
  constructor
  · rintro ⟨es, mapping, _, ⟨_, minter, rfl⟩, _, cap, rfl⟩
    exact ⟨es, mapping, minter, cap⟩
  · rintro ⟨es, mapping, minter, cap⟩
    exact ⟨es, mapping, _, ⟨_, minter, rfl⟩, _, cap, rfl⟩

theorem Image.ofVariants_eq_good_iff {svg png : Option Text} {image : Image} :
    Image.ofVariants (svg, png) = .good image ↔
      (∃ data, svg = some data ∧ png = none ∧ image = .svg data) ∨
        ∃ data, svg = none ∧ png = some data ∧ image = .png data := by
  cases svg <;> cases png <;> simp [Image.ofVariants, fail, eq_comm]

theorem Image.decode_reads : Reads Image.decode GivesImage := by
  intro v image
  simp only [Image.decode, object_eq_good_iff, check_eq_good_iff, Prod.exists, both_eq_good_iff,
    plainText_reads.optional, Image.ofVariants_eq_good_iff]
  constructor
  · rintro ⟨es, mapping, _, _, ⟨svg, png⟩, ⟨data, rfl, rfl, rfl⟩ | ⟨data, rfl, rfl, rfl⟩⟩
    · exact ⟨es, mapping, svg, png⟩
    · exact ⟨es, mapping, svg, png⟩
  · intro given
    cases image with
    | svg data =>
      obtain ⟨es, mapping, svg, png⟩ := given
      exact ⟨es, mapping, _, _, ⟨svg, png⟩, .inl ⟨data, rfl, rfl, rfl⟩⟩
    | png data =>
      obtain ⟨es, mapping, svg, png⟩ := given
      exact ⟨es, mapping, _, _, ⟨svg, png⟩, .inr ⟨data, rfl, rfl, rfl⟩⟩

theorem Logo.ofVariants_eq_good_iff {url : Option Text} {embedded : Option Image} {logo : Logo} :
    Logo.ofVariants (url, embedded) = .good logo ↔
      (∃ link, url = some link ∧ embedded = none ∧ logo = .url link) ∨
        ∃ image, url = none ∧ embedded = some image ∧ logo = .embedded image := by
  cases url <;> cases embedded <;> simp [Logo.ofVariants, fail, eq_comm]

theorem Logo.decode_reads : Reads Logo.decode GivesLogo := by
  intro v logo
  simp only [Logo.decode, object_eq_good_iff, check_eq_good_iff, Prod.exists, both_eq_good_iff,
    plainText_reads.optional, Image.decode_reads.optional, Logo.ofVariants_eq_good_iff]
  constructor
  · rintro ⟨es, mapping, _, _, ⟨url, embedded⟩, ⟨link, rfl, rfl, rfl⟩ | ⟨image, rfl, rfl, rfl⟩⟩
    · exact ⟨es, mapping, url, embedded⟩
    · exact ⟨es, mapping, url, embedded⟩
  · intro given
    cases logo with
    | url link =>
      obtain ⟨es, mapping, url, embedded⟩ := given
      exact ⟨es, mapping, _, _, ⟨url, embedded⟩, .inl ⟨link, rfl, rfl, rfl⟩⟩
    | embedded image =>
      obtain ⟨es, mapping, url, embedded⟩ := given
      exact ⟨es, mapping, _, _, ⟨url, embedded⟩, .inr ⟨image, rfl, rfl, rfl⟩⟩

theorem Marketing.decode_reads : Reads Marketing.decode GivesMarketing := by
  intro v m
  simp only [Marketing.decode, object_eq_good_iff, seq_eq_good_iff, map_eq_good_iff,
    plainText_reads.optional, Logo.decode_reads.optional]
  constructor
  · rintro ⟨es, mapping, _, ⟨_, ⟨_, ⟨_, project, rfl⟩, _, description, rfl⟩, _, marketing, rfl⟩, _, logo, rfl⟩
    exact ⟨es, mapping, project, description, marketing, logo⟩
  · rintro ⟨es, mapping, project, description, marketing, logo⟩
    exact ⟨es, mapping, _, ⟨_, ⟨_, ⟨_, project, rfl⟩, _, description, rfl⟩, _, marketing, rfl⟩, _, logo, rfl⟩

theorem Message.decode_reads : Reads Message.decode GivesMessage := by
  intro v m
  simp only [Message.decode, object_eq_good_iff, seq_eq_good_iff, map_eq_good_iff,
    utf8Text_reads.required, byte_reads.required, Allocation.decode_reads.list.required,
    Minter.decode_reads.optional, Marketing.decode_reads.optional]
  constructor
  · rintro ⟨es, mapping, _, ⟨_, ⟨_, ⟨_, ⟨_, ⟨_, name, rfl⟩, _, symbol, rfl⟩, _, decimals, rfl⟩, _, balances, rfl⟩,
      _, mint, rfl⟩, _, marketing, rfl⟩
    exact ⟨es, mapping, name, symbol, decimals, balances, mint, marketing⟩
  · rintro ⟨es, mapping, name, symbol, decimals, balances, mint, marketing⟩
    exact ⟨es, mapping, _, ⟨_, ⟨_, ⟨_, ⟨_, ⟨_, name, rfl⟩, _, symbol, rfl⟩, _, decimals, rfl⟩, _, balances, rfl⟩,
      _, mint, rfl⟩, _, marketing, rfl⟩

theorem Message.whole_of_decode {v : Value} {m : Message} (good : Message.decode v = .good m) :
    m.name.hasSurrogate = false ∧ m.symbol.hasSurrogate = false := by
  obtain ⟨_, _, ⟨_, _, _, name⟩, ⟨_, _, _, symbol⟩, _⟩ := (Message.decode_reads v m).mp good
  exact ⟨name, symbol⟩

def Covers {α : Type} (form : Value → α → Prop) (accepts : Value → Prop) : Prop := ∀ v, (∃ a, form v a) ↔ accepts v

namespace Covers

variable {α : Type} {form : Value → α → Prop} {accepts : Value → Prop}

theorem has (covers : Covers form accepts) (es : Mapping) (name : Text) :
    (∃ a, es.Gives name form a) ↔ es.Has name accepts := by
  constructor
  · rintro ⟨a, v, bound, given⟩
    exact ⟨v, bound, (covers v).mp ⟨a, given⟩⟩
  · rintro ⟨v, bound, accepted⟩
    obtain ⟨a, given⟩ := (covers v).mpr accepted
    exact ⟨a, v, bound, given⟩

theorem given_of_sets (covers : Covers form accepts) {es : Mapping} {name : Text} (may : es.MayHave name accepts)
    (sets : es.Sets name) : ∃ a, es.MayGive name form (some a) := by
  obtain ⟨v, bound, real⟩ := sets
  rcases may v bound with none | accepted
  · exact (real none).elim
  · obtain ⟨a, given⟩ := (covers v).mpr accepted
    exact ⟨a, v, bound, real, given⟩

theorem may (covers : Covers form accepts) (es : Mapping) (name : Text) :
    (∃ o, es.MayGive name form o) ↔ es.MayHave name accepts := by
  constructor
  · rintro ⟨o, given⟩ v bound
    by_cases real : v = .null
    · exact .inl real
    · cases o with
      | none => exact (given ⟨v, bound, real⟩).elim
      | some a =>
        obtain ⟨v', bound', _, given⟩ := given
        rw [bound] at bound'
        cases bound'
        exact .inr ((covers v).mp ⟨a, given⟩)
  · intro may
    by_cases sets : es.Sets name
    · obtain ⟨a, given⟩ := covers.given_of_sets may sets
      exact ⟨some a, given⟩
    · exact ⟨none, sets⟩

theorem list (covers : Covers form accepts) : Covers (GivesListOf form) (IsListOf accepts) := by
  intro v
  have items : ∀ xs : List Value, (∃ as, List.Forall₂ form xs as) ↔ ∀ x ∈ xs, accepts x := by
    intro xs
    induction xs with
    | nil => simp
    | cons x xs ih =>
      rw [List.forall_mem_cons, ← ih, ← covers x]
      constructor
      · rintro ⟨_, given⟩
        cases given with
        | cons first rest => exact ⟨⟨_, first⟩, _, rest⟩
      · rintro ⟨⟨a, first⟩, as, rest⟩
        exact ⟨a :: as, .cons first rest⟩
  constructor
  · rintro ⟨as, xs, isList, given⟩
    exact ⟨xs, isList, (items xs).mp ⟨as, given⟩⟩
  · rintro ⟨xs, isList, accepted⟩
    obtain ⟨as, given⟩ := (items xs).mpr accepted
    exact ⟨as, xs, isList, given⟩

end Covers

theorem Mapping.MayGive.sets {α : Type} {form : Value → α → Prop} {es : Mapping} {name : Text} {a : α}
    (given : es.MayGive name form (some a)) : es.Sets name := by
  obtain ⟨v, bound, real, _⟩ := given
  exact ⟨v, bound, real⟩

namespace Value

theorem text_covers : Covers GivesText IsText := fun _ => Iff.rfl

theorem utf8Text_covers : Covers GivesUtf8Text IsUtf8Text := fun _ => Iff.rfl

theorem byte_covers : Covers GivesByte IsByte := by
  intro v
  constructor
  · rintro ⟨n, given⟩
    exact ⟨n.val, given, Nat.le_of_lt_succ n.isLt⟩
  · rintro ⟨n, isInt, small⟩
    exact ⟨⟨n, Nat.lt_succ_of_le small⟩, isInt⟩

theorem amount_covers : Covers GivesAmount IsAmount := by
  intro v
  constructor
  · rintro ⟨u, isInt | ⟨t, isText, numeral, same⟩⟩
    · exact .inl ⟨u.val, isInt, u.val_lt⟩
    · exact .inr ⟨t, isText, numeral, same ▸ u.val_lt⟩
  · rintro (⟨n, isInt, small⟩ | ⟨t, isText, numeral, small⟩)
    · exact ⟨⟨n, small⟩, .inl isInt⟩
    · exact ⟨⟨t.digitsValue, small⟩, .inr ⟨t, isText, numeral, rfl⟩⟩

theorem allocation_covers : Covers GivesAllocation IsAllocation := by
  intro v
  constructor
  · rintro ⟨a, es, mapping, address, amount⟩
    exact ⟨es, mapping, (text_covers.has es _).mp ⟨_, address⟩, (amount_covers.has es _).mp ⟨_, amount⟩⟩
  · rintro ⟨es, mapping, address, amount⟩
    obtain ⟨address, toAddress⟩ := (text_covers.has es _).mpr address
    obtain ⟨amount, toAmount⟩ := (amount_covers.has es _).mpr amount
    exact ⟨⟨address, amount⟩, es, mapping, toAddress, toAmount⟩

theorem minter_covers : Covers GivesMinter IsMinter := by
  intro v
  constructor
  · rintro ⟨m, es, mapping, minter, cap⟩
    exact ⟨es, mapping, (text_covers.has es _).mp ⟨_, minter⟩, (amount_covers.may es _).mp ⟨_, cap⟩⟩
  · rintro ⟨es, mapping, minter, cap⟩
    obtain ⟨minter, toMinter⟩ := (text_covers.has es _).mpr minter
    obtain ⟨cap, toCap⟩ := (amount_covers.may es _).mpr cap
    exact ⟨⟨minter, cap⟩, es, mapping, toMinter, toCap⟩

theorem image_covers : Covers GivesImage IsImage := by
  intro v
  constructor
  · rintro ⟨image, given⟩
    cases image with
    | svg data =>
      obtain ⟨es, mapping, svg, png⟩ := given
      exact ⟨es, mapping, (text_covers.may es _).mp ⟨_, svg⟩, (text_covers.may es _).mp ⟨_, png⟩,
        .inl ⟨svg.sets, png⟩⟩
    | png data =>
      obtain ⟨es, mapping, svg, png⟩ := given
      exact ⟨es, mapping, (text_covers.may es _).mp ⟨_, svg⟩, (text_covers.may es _).mp ⟨_, png⟩,
        .inr ⟨png.sets, svg⟩⟩
  · rintro ⟨es, mapping, svg, png, ⟨set, unset⟩ | ⟨set, unset⟩⟩
    · obtain ⟨data, given⟩ := text_covers.given_of_sets svg set
      exact ⟨.svg data, es, mapping, given, unset⟩
    · obtain ⟨data, given⟩ := text_covers.given_of_sets png set
      exact ⟨.png data, es, mapping, unset, given⟩

theorem logo_covers : Covers GivesLogo IsLogo := by
  intro v
  constructor
  · rintro ⟨logo, given⟩
    cases logo with
    | url link =>
      obtain ⟨es, mapping, url, embedded⟩ := given
      exact ⟨es, mapping, (text_covers.may es _).mp ⟨_, url⟩, (image_covers.may es _).mp ⟨_, embedded⟩,
        .inl ⟨url.sets, embedded⟩⟩
    | embedded image =>
      obtain ⟨es, mapping, url, embedded⟩ := given
      exact ⟨es, mapping, (text_covers.may es _).mp ⟨_, url⟩, (image_covers.may es _).mp ⟨_, embedded⟩,
        .inr ⟨embedded.sets, url⟩⟩
  · rintro ⟨es, mapping, url, embedded, ⟨set, unset⟩ | ⟨set, unset⟩⟩
    · obtain ⟨link, given⟩ := text_covers.given_of_sets url set
      exact ⟨.url link, es, mapping, given, unset⟩
    · obtain ⟨image, given⟩ := image_covers.given_of_sets embedded set
      exact ⟨.embedded image, es, mapping, unset, given⟩

theorem marketing_covers : Covers GivesMarketing IsMarketing := by
  intro v
  constructor
  · rintro ⟨m, es, mapping, project, description, marketing, logo⟩
    exact ⟨es, mapping, (text_covers.may es _).mp ⟨_, project⟩, (text_covers.may es _).mp ⟨_, description⟩,
      (text_covers.may es _).mp ⟨_, marketing⟩, (logo_covers.may es _).mp ⟨_, logo⟩⟩
  · rintro ⟨es, mapping, project, description, marketing, logo⟩
    obtain ⟨project, toProject⟩ := (text_covers.may es _).mpr project
    obtain ⟨description, toDescription⟩ := (text_covers.may es _).mpr description
    obtain ⟨marketing, toMarketing⟩ := (text_covers.may es _).mpr marketing
    obtain ⟨logo, toLogo⟩ := (logo_covers.may es _).mpr logo
    exact ⟨⟨project, description, marketing, logo⟩, es, mapping, toProject, toDescription, toMarketing, toLogo⟩

theorem message_covers : Covers GivesMessage IsMessage := by
  intro v
  constructor
  · rintro ⟨m, es, mapping, name, symbol, decimals, balances, mint, marketing⟩
    exact ⟨es, mapping, (utf8Text_covers.has es _).mp ⟨_, name⟩, (utf8Text_covers.has es _).mp ⟨_, symbol⟩,
      (byte_covers.has es _).mp ⟨_, decimals⟩, (allocation_covers.list.has es _).mp ⟨_, balances⟩,
      (minter_covers.may es _).mp ⟨_, mint⟩, (marketing_covers.may es _).mp ⟨_, marketing⟩⟩
  · rintro ⟨es, mapping, name, symbol, decimals, balances, mint, marketing⟩
    obtain ⟨name, toName⟩ := (utf8Text_covers.has es _).mpr name
    obtain ⟨symbol, toSymbol⟩ := (utf8Text_covers.has es _).mpr symbol
    obtain ⟨decimals, toDecimals⟩ := (byte_covers.has es _).mpr decimals
    obtain ⟨balances, toBalances⟩ := (allocation_covers.list.has es _).mpr balances
    obtain ⟨mint, toMint⟩ := (minter_covers.may es _).mpr mint
    obtain ⟨marketing, toMarketing⟩ := (marketing_covers.may es _).mpr marketing
    exact ⟨⟨name, symbol, decimals, balances, mint, marketing⟩, es, mapping, toName, toSymbol, toDecimals,
      toBalances, toMint, toMarketing⟩

end Value

/-- Data is decoded if and only if it is in the grammar, and then as the message that it gives. -/
theorem decode_grammar (v : Value) :
    ((∃ m, Message.decode v = .good m) ↔ v.IsMessage) ∧ ∀ m, Message.decode v = .good m ↔ v.GivesMessage m := by
  refine ⟨?_, Message.decode_reads v⟩
  rw [← message_covers v]
  exact exists_congr (Message.decode_reads v)

end TokenIntake
