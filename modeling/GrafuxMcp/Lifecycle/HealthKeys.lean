import GrafuxMcp.Cache.Keys
import Mathlib.Data.List.TakeWhile

/-! # Health keys

The keys of health entries and what a pattern for one org matches. A text that names an
org has at least 32 characters, and few that no hexadecimal digit stands for. -/

namespace GrafuxMcp

open GrafuxMcp

/-! ### Texts that name an org -/

/-- The characters that `uuid.UUID` takes away. -/
def uuidMarks : Text :=
  "urn:".toList ++ "uuid:".toList ++ ['{', '}', '-']

structure IsOrgText (text : Text) : Prop where
  length : 32 ≤ text.length
  chars : ∀ c ∈ text, c ∈ uuidMarks ∨ isHexDigit c.toLower = true

namespace Uuid

section RemoveFrom

variable {word : Text} {c : Char}

theorem length_removeFrom_le (word : Text) (skip : Nat) (text : Text) :
    (removeFrom word skip text).length ≤ text.length := by
  induction text generalizing skip with
  | nil => cases skip <;> simp [removeFrom]
  | cons first text induction =>
      cases skip with
      | succ skip =>
          have rest := induction skip
          simp only [removeFrom, List.length_cons]
          omega
      | zero =>
          unfold removeFrom
          split
          · have rest := induction (word.length - 1)
            simp only [List.length_cons]
            omega
          · have rest := induction 0
            simp only [List.length_cons]
            omega

/-- Only characters of the word are removed. -/
theorem mem_removeFrom (outside : c ∉ word) (filled : word ≠ []) {skip : Nat} {text : Text}
    (covered : ∀ other ∈ text.take skip, other ∈ word) (member : c ∈ text) :
    c ∈ removeFrom word skip text := by
  induction text generalizing skip with
  | nil => cases member
  | cons first text induction =>
      cases skip with
      | succ skip =>
          rw [List.take_succ_cons] at covered
          rcases List.mem_cons.mp member with here | later
          · rw [here] at outside
            exact absurd (covered first List.mem_cons_self) outside
          · exact induction (fun other inside => covered other (List.mem_cons_of_mem _ inside)) later
      | zero =>
          unfold removeFrom
          split
          case isTrue starts =>
            rcases List.isPrefixOf_iff_prefix.mp starts with ⟨rest, equal⟩
            cases word with
            | nil => exact absurd rfl filled
            | cons head word =>
                rw [List.cons_append] at equal
                rcases List.cons.inj equal with ⟨same, equal⟩
                rcases List.mem_cons.mp member with here | later
                · rw [here, ← same] at outside
                  exact absurd List.mem_cons_self outside
                · refine induction ?_ later
                  intro other inside
                  rw [← equal, List.length_cons, Nat.add_sub_cancel, List.take_left] at inside
                  exact List.mem_cons_of_mem _ inside
          case isFalse =>
            rcases List.mem_cons.mp member with here | later
            · rw [here]
              exact List.mem_cons_self
            · exact List.mem_cons_of_mem _ (induction nofun later)

theorem mem_removeFrom_zero (outside : c ∉ word) (filled : word ≠ []) {text : Text}
    (member : c ∈ text) : c ∈ removeFrom word 0 text := by
  apply mem_removeFrom outside filled _ member
  intro other inside
  rw [List.take_zero] at inside
  cases inside

end RemoveFrom

theorem mem_dropWhile_isBrace {c : Char} {text : Text} (other : isBrace c = false)
    (member : c ∈ text) : c ∈ text.dropWhile isBrace := by
  rw [← List.takeWhile_append_dropWhile (p := isBrace) (l := text)] at member
  rcases List.mem_append.mp member with dropped | stays
  · rw [List.mem_takeWhile_imp dropped] at other
    cases other
  · exact stays

theorem mem_stripBraces {c : Char} {text : Text} (other : isBrace c = false)
    (member : c ∈ text) : c ∈ stripBraces text := by
  rw [stripBraces, List.mem_reverse]
  apply mem_dropWhile_isBrace other
  rw [List.mem_reverse]
  exact mem_dropWhile_isBrace other member

theorem length_stripBraces_le (text : Text) : (stripBraces text).length ≤ text.length := by
  have outer := (List.dropWhile_suffix isBrace (l := (text.dropWhile isBrace).reverse)).length_le
  have inner := (List.dropWhile_suffix isBrace (l := text)).length_le
  rw [List.length_reverse] at outer
  rw [stripBraces, List.length_reverse]
  omega

theorem isOrgText_of_parse {text : Text} {uuid : Uuid} (parsed : parse text = some uuid) :
    IsOrgText text := by
  unfold parse at parsed
  dsimp only at parsed
  split at parsed
  case isFalse => cases parsed
  case isTrue valid =>
    constructor
    · have filtered := List.length_filter_le (· ≠ '-')
        (stripBraces (removeFrom "uuid:".toList 0 (removeFrom "urn:".toList 0 text)))
      have stripped := length_stripBraces_le
        (removeFrom "uuid:".toList 0 (removeFrom "urn:".toList 0 text))
      have second := length_removeFrom_le "uuid:".toList 0 (removeFrom "urn:".toList 0 text)
      have first := length_removeFrom_le "urn:".toList 0 text
      rw [List.length_map] at valid
      omega
    · intro c member
      by_cases mark : c ∈ uuidMarks
      · exact Or.inl mark
      · right
        have outside : c ∉ "urn:".toList ∧ c ∉ "uuid:".toList ∧ isBrace c = false ∧ c ≠ '-' := by
          have apart : c ∉ "urn:".toList ++ "uuid:".toList ++ ['{', '}', '-'] := mark
          rw [List.mem_append, List.mem_append, not_or, not_or] at apart
          have others := apart.2
          simp only [List.mem_cons, List.not_mem_nil, or_false, not_or] at others
          exact ⟨apart.1.1, apart.1.2, by simp [isBrace, others], others.2.2⟩
        have first : c ∈ removeFrom "urn:".toList 0 text :=
          mem_removeFrom_zero outside.1 (by decide) member
        have second : c ∈ removeFrom "uuid:".toList 0 (removeFrom "urn:".toList 0 text) :=
          mem_removeFrom_zero outside.2.1 (by decide) first
        have kept := mem_stripBraces outside.2.2.1 second
        apply List.all_eq_true.mp valid.2
        apply List.mem_map_of_mem
        exact List.mem_filter.mpr ⟨kept, decide_eq_true outside.2.2.2⟩

theorem length_str (uuid : Uuid) : uuid.str.length = 36 := by
  have digits := uuid.length_digits
  simp only [str, List.length_append, List.length_cons, List.length_take, List.length_drop, digits]
  decide

theorem toLower_of_isHexDigit {c : Char} (hex : isHexDigit c = true) :
    isHexDigit c.toLower = true := by
  have all : "0123456789abcdef".toList.all (fun other => isHexDigit other.toLower) = true := by
    decide
  exact List.all_eq_true.mp all c (List.contains_iff_mem.mp hex)

theorem isHexDigit_of_mem_str {uuid : Uuid} {c : Char} (member : c ∈ uuid.str)
    (other : c ≠ '-') : isHexDigit c = true := by
  have digit : c ∈ uuid.digits := by
    rw [← filter_hyphen_str uuid]
    exact List.mem_filter.mpr ⟨member, decide_eq_true other⟩
  exact List.all_eq_true.mp uuid.hex_digits c digit

theorem isOrgText_str (uuid : Uuid) : IsOrgText uuid.str := by
  constructor
  · rw [length_str]
    decide
  · intro c member
    by_cases hyphen : c = '-'
    · rw [hyphen]
      exact Or.inl (by decide)
    · exact Or.inr (toLower_of_isHexDigit (isHexDigit_of_mem_str member hyphen))

end Uuid

/-! ### Keys -/

namespace MCPKeys

section Apart

variable {text middle rest : Text} (word : Text) (c : Char)

/-- An org's key does not go on with a word that no such text has. -/
theorem orgText_append_ne (org : IsOrgText text) (short : word.length ≤ 32) (member : c ∈ word)
    (foreign : c ∉ uuidMarks ∧ isHexDigit c.toLower = false) : text ++ middle ≠ word ++ rest := by
  intro same
  have front : word <+: text ++ middle := ⟨rest, same.symm⟩
  have starts : word <+: text := List.prefix_of_prefix_length_le front
    (List.prefix_append text middle) (le_trans short org.length)
  rcases org.chars c (starts.subset member) with mark | hex
  · exact foreign.1 mark
  · rw [foreign.2] at hex
    cases hex

/-- The pattern for one org, with its star replaced. -/
def statusKey (orgId middle : Text) : Text :=
  "mcp:".toList ++ orgId ++ (":server:".toList ++ middle ++ ":health".toList)

theorem statusKey_eq (orgId middle : Text) : statusKey orgId middle =
    "mcp:".toList ++ (orgId ++ (":server:".toList ++ middle ++ ":health".toList)) := by
  have unfolded : statusKey orgId middle =
      "mcp:".toList ++ orgId ++ (":server:".toList ++ middle ++ ":health".toList) := rfl
  rw [unfolded, List.append_assoc]

theorem serverHealth_eq (orgId serverId : Text) :
    serverHealth orgId serverId = statusKey orgId serverId := by
  have unfolded : serverHealth orgId serverId =
      "mcp:".toList ++ orgId ++ ":server:".toList ++ serverId ++ ":health".toList := rfl
  rw [unfolded, statusKey_eq, List.append_assoc, List.append_assoc, List.append_assoc,
    List.append_assoc]

theorem statusKey_ne (org : IsOrgText text) (short : word.length ≤ 32) (member : c ∈ word)
    (foreign : c ∉ uuidMarks ∧ isHexDigit c.toLower = false) :
    statusKey text middle ≠ "mcp:".toList ++ word ++ rest := by
  intro same
  rw [statusKey_eq, List.append_assoc] at same
  exact orgText_append_ne word c org short member foreign (List.append_cancel_left same)

theorem statusKey_ne_capabilities (org : IsOrgText text) (serverId : Text) :
    statusKey text middle ≠ serverCapabilities serverId :=
  statusKey_ne "capabilities:".toList 'p' org (by decide) (by decide) (by decide)

end Apart

/-- A health key tells the server, and the spelling of its org. -/
theorem serverHealth_injective {org other : Uuid} {serverId otherId : Uuid}
    (same : serverHealth org.str serverId.str = serverHealth other.str otherId.str) :
    serverId = otherId := by
  apply Uuid.str_injective
  rw [serverHealth_eq, serverHealth_eq, statusKey_eq, statusKey_eq] at same
  have orgs : org.str.length = other.str.length := by
    rw [Uuid.length_str, Uuid.length_str]
  have behind := (List.append_inj (List.append_cancel_left same) orgs).2
  exact List.append_cancel_left (List.append_cancel_right behind)

theorem orgId_of_statusKey {text middle : Text} {org serverId : Uuid} (spelled : IsOrgText text)
    (same : statusKey text middle = serverHealth org.str serverId.str) : text = org.str := by
  rw [serverHealth_eq, statusKey_eq, statusKey_eq] at same
  have rest : text ++ (":server:".toList ++ middle ++ ":health".toList) =
      org.str ++ (":server:".toList ++ serverId.str ++ ":health".toList) :=
    List.append_cancel_left same
  rcases List.append_eq_append_iff.mp rest with ⟨longer, equal, later⟩ | ⟨longer, equal, later⟩
  · cases longer with
    | nil => rw [equal, List.append_nil]
    | cons first longer =>
        -- the text would end where a UUID has a colon
        have colon : first = ':' := (List.cons.inj later).1.symm
        have member : ':' ∈ org.str := by
          rw [equal, colon]
          exact List.mem_append_right _ List.mem_cons_self
        exact absurd (Uuid.isHexDigit_of_mem_str member (by decide)) (by decide)
  · cases longer with
    | nil => rw [equal, List.append_nil]
    | cons first longer =>
        have later' := (List.cons.inj later).2
        cases longer with
        | nil => exact absurd (List.cons.inj later').1 (by decide)
        | cons second longer =>
            -- the text would go on with the word of the key
            have letter : second = 's' := (List.cons.inj later').1.symm
            have member : 's' ∈ text := by
              rw [equal, letter]
              exact List.mem_append_right _ (List.mem_cons_of_mem _ List.mem_cons_self)
            rcases spelled.chars 's' member with mark | hex
            · exact absurd mark (by decide)
            · exact absurd hex (by decide)

end MCPKeys

end GrafuxMcp
