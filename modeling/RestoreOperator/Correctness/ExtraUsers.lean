import RestoreOperator.Base.Firsts
import RestoreOperator.Canopy.Intent
import RestoreOperator.Replica.Trimming

/-!
# `Correctness.ExtraUsers` — extra users as one text

The parameter for the extra users separates them by commas, a name from its schemas by a colon, and schemas
by plus signs.  White space around a separator does not matter, so users that are written come out as they
were.  What comes out is cleaned up once more, by keeping the first of each name and of each schema.
-/

namespace RestoreOperator

open Delimited Firsts

/-! ## Texts with blanks -/

section Blanks

variable {sep : Char} {s a b before after : String}

/-- There is nothing in a blank text but white space. -/
theorem not_mem_blank (hsep : isWhiteSpace sep = false) (h : trim s = "") : sep ∉ s.toList := by
  intro hmem
  rw [(trim_eq_empty_iff s).mp h sep hmem] at hsep
  cases hsep

/-- A text, by what trimming leaves of it. -/
theorem exists_blanks (s : String) :
    ∃ before after, trim before = "" ∧ trim after = "" ∧ s = before ++ trim s ++ after := by
  refine ⟨String.ofList (s.toList.takeWhile isWhiteSpace),
    String.ofList ((s.toList.dropWhile isWhiteSpace).rtakeWhile isWhiteSpace), ?_, ?_, ?_⟩
  · rw [trim_eq_empty_iff, String.toList_ofList]
    exact fun c hc => List.mem_takeWhile_imp hc
  · rw [trim_eq_empty_iff, String.toList_ofList]
    exact fun c hc => List.mem_rtakeWhile_imp hc
  · rw [← String.toList_inj, String.toList_append, String.toList_append, toList_trim,
      String.toList_ofList, String.toList_ofList, List.append_assoc, List.rdropWhile_append_rtakeWhile,
      List.takeWhile_append_dropWhile]

/-- A text around its first separator. -/
theorem splitOnce_append (h : sep ∉ a.toList) (b : String) :
    splitOnce sep (a ++ String.singleton sep ++ b) = some (a, b) := by
  unfold splitOnce
  rw [String.toList_append, String.toList_append, String.toList_singleton, List.append_assoc,
    List.singleton_append, dropWhile_ne_append_cons h, takeWhile_ne_append_cons h]
  dsimp only
  rw [String.ofList_toList, String.ofList_toList]

theorem splitOnce_eq_none (h : sep ∉ s.toList) : splitOnce sep s = none := by
  unfold splitOnce
  rw [dropWhile_ne_of_notMem h]

/-- **White space around a text** stays outside when it is split. -/
theorem splitOnce_blanks (hsep : isWhiteSpace sep = false) (hbefore : trim before = "")
    (hafter : trim after = "") (s : String) :
    splitOnce sep (before ++ s ++ after) = (splitOnce sep s).map fun (a, b) => (before ++ a, b ++ after) := by
  have hbefore' : sep ∉ before.toList := not_mem_blank hsep hbefore
  have hafter' : sep ∉ after.toList := not_mem_blank hsep hafter
  by_cases hmem : sep ∈ s.toList
  · obtain ⟨front, back, hsplit, hfront⟩ := List.eq_append_cons_of_mem hmem
    have hs : s = String.ofList front ++ String.singleton sep ++ String.ofList back := by
      rw [← String.toList_inj, hsplit]
      simp
    have hfront' : sep ∉ (String.ofList front).toList := by
      rw [String.toList_ofList]
      exact hfront
    have houter : sep ∉ (before ++ String.ofList front).toList := by
      rw [String.toList_append, List.mem_append]
      exact not_or.mpr ⟨hbefore', hfront'⟩
    have hparts : before ++ s ++ after =
        (before ++ String.ofList front) ++ String.singleton sep ++ (String.ofList back ++ after) := by
      rw [hs]
      simp only [String.append_assoc]
    rw [hparts, splitOnce_append houter, hs, splitOnce_append hfront']
    rfl
  · have hmem' : sep ∉ (before ++ s ++ after).toList := by
      rw [String.toList_append, String.toList_append]
      simp [hbefore', hmem, hafter']
    rw [splitOnce_eq_none hmem, splitOnce_eq_none hmem']
    rfl

/-- White space at the end of a list does not matter. -/
theorem parseList_append_blank (hsep : isWhiteSpace sep = false) (hafter : trim after = "") (s : String) :
    parseList sep (s ++ after) = parseList sep s := by
  obtain ⟨init, last, hsplit, htail⟩ := splitOn_append (not_mem_blank hsep hafter) s.toList
  unfold parseList split
  rw [String.toList_append, htail, hsplit]
  simp only [List.map_append, List.map_cons, List.map_nil]
  have hlast : trim (String.ofList (last ++ after.toList)) = trim (String.ofList last) := by
    rw [String.ofList_append, String.ofList_toList, trim_append_right hafter]
  rw [hlast]

end Blanks

/-! ## Users that are written -/

/-- A text with white space around it. -/
def Padded (s padded : String) : Prop :=
  ∃ before after, trim before = "" ∧ trim after = "" ∧ padded = before ++ s ++ after

/-- **A user, written**: its name, or its name and its schemas. -/
inductive Written (user : ExtraUserSpec) : String → Prop
  | name {text : String} (hschemas : user.schemas = []) (hname : Padded user.name text) : Written user text
  | schemas {name : String} {parts : List String} (hne : user.schemas ≠ []) (hname : Padded user.name name)
    (hparts : List.Forall₂ Padded user.schemas parts) :
    Written user (name ++ String.singleton ':' ++ join '+' parts)

/-- **A user that can be written**: the names are trimmed, not empty, and free of what separates them. -/
structure Writable (user : ExtraUserSpec) : Prop where
  name_trimmed : trim user.name = user.name
  name_ne_empty : user.name ≠ ""
  name_free : ',' ∉ user.name.toList ∧ ':' ∉ user.name.toList
  schemas_trimmed : ∀ schema ∈ user.schemas, trim schema = schema ∧ schema ≠ ""
  schemas_free : ∀ schema ∈ user.schemas, ',' ∉ schema.toList ∧ '+' ∉ schema.toList

section Written

variable {user : ExtraUserSpec} {s padded text : String} {sep : Char}

theorem Padded.trim_eq (h : Padded s padded) : trim padded = trim s := by
  obtain ⟨before, after, hbefore, hafter, rfl⟩ := h
  rw [trim_append_right hafter, trim_append_left hbefore]

theorem Padded.not_mem (h : Padded s padded) (hsep : isWhiteSpace sep = false) (hs : sep ∉ s.toList) :
    sep ∉ padded.toList := by
  obtain ⟨before, after, hbefore, hafter, rfl⟩ := h
  rw [String.toList_append, String.toList_append, List.mem_append, List.mem_append, not_or, not_or]
  exact ⟨⟨not_mem_blank hsep hbefore, hs⟩, not_mem_blank hsep hafter⟩

/-- **White space around an entry does not matter.** -/
theorem parseEntry_trim (entry : String) :
    parseEntry (trim entry) =
      match splitOnce ':' entry with
      | some (name, schemas) => { name := trim name, schemas := parseList '+' schemas }
      | none => { name := trim entry } := by
  obtain ⟨before, after, hbefore, hafter, hentry⟩ := exists_blanks entry
  have hsplit : splitOnce ':' (before ++ trim entry ++ after) = _ :=
    splitOnce_blanks rfl hbefore hafter (trim entry)
  rw [← hentry] at hsplit
  unfold parseEntry
  rw [hsplit]
  cases splitOnce ':' (trim entry) with
  | none => rfl
  | some parts =>
    obtain ⟨name, schemas⟩ := parts
    rw [Option.map_some]
    dsimp only
    rw [trim_append_left hbefore, parseList_append_blank rfl hafter]

section Padded

variable {items parts : List String}

/-- Padding holds no separators. -/
theorem not_mem_padded (hsep : isWhiteSpace sep = false) (hparts : List.Forall₂ Padded items parts)
    (hitems : ∀ item ∈ items, sep ∉ item.toList) : ∀ part ∈ parts, sep ∉ part.toList := by
  induction hparts with
  | nil => exact fun _ h => absurd h List.not_mem_nil
  | cons hpadded _ ih =>
    intro part hpart
    rcases List.mem_cons.mp hpart with rfl | hpart
    · exact hpadded.not_mem hsep (hitems _ List.mem_cons_self)
    · exact ih (fun item hitem => hitems item (List.mem_cons_of_mem _ hitem)) part hpart

/-- Padding is trimmed. -/
theorem map_trim_padded (hparts : List.Forall₂ Padded items parts) : parts.map trim = items.map trim := by
  induction hparts with
  | nil => rfl
  | cons hpadded _ ih => rw [List.map_cons, List.map_cons, hpadded.trim_eq, ih]

/-- **Padded items are read without the padding.** -/
theorem parseList_join (hsep : isWhiteSpace sep = false) (hne : items ≠ [])
    (hparts : List.Forall₂ Padded items parts)
    (hitems : ∀ item ∈ items, trim item = item ∧ item ≠ "") (hfree : ∀ item ∈ items, sep ∉ item.toList) :
    parseList sep (join sep parts) = items := by
  have hparts_ne : parts ≠ [] := by
    rintro rfl
    exact hne (List.forall₂_nil_right_iff.mp hparts)
  have htrims : items.map trim = items := by
    rw [List.map_congr_left fun item hitem => (hitems item hitem).1, List.map_id']
  unfold parseList
  rw [(split_join_iff hparts_ne).mpr (not_mem_padded hsep hparts hfree), map_trim_padded hparts, htrims,
    List.filter_eq_self]
  exact fun item hitem => decide_eq_true (hitems item hitem).2

end Padded

theorem Written.parseEntry_eq (h : Written user text) (huser : Writable user) :
    parseEntry (trim text) = user := by
  rw [parseEntry_trim]
  cases h with
  | name hschemas hname =>
    rw [splitOnce_eq_none (hname.not_mem rfl huser.name_free.2), hname.trim_eq, huser.name_trimmed, ← hschemas]
  | schemas hne hname hparts =>
    have hlist : parseList '+' (join '+' _) = user.schemas :=
      parseList_join rfl hne hparts huser.schemas_trimmed
        fun schema hschema => (huser.schemas_free schema hschema).2
    rw [splitOnce_append (hname.not_mem rfl huser.name_free.2)]
    dsimp only
    rw [hname.trim_eq, huser.name_trimmed, hlist]

theorem Written.not_mem_comma (h : Written user text) (huser : Writable user) : ',' ∉ text.toList := by
  cases h with
  | name _ hname => exact hname.not_mem rfl huser.name_free.1
  | schemas _ hname hparts =>
    have hfree : ∀ part ∈ _, ',' ∉ String.toList part :=
      not_mem_padded rfl hparts fun schema hschema => (huser.schemas_free schema hschema).1
    rw [String.toList_append, String.toList_append, String.toList_singleton, List.mem_append,
      List.mem_append, List.mem_singleton, not_or, not_or]
    exact ⟨⟨hname.not_mem rfl huser.name_free.1, by decide⟩, not_mem_join (by decide) hfree⟩

/-- A written user is no blank entry. -/
theorem Written.trim_ne_empty (h : Written user text) (huser : Writable user) : trim text ≠ "" := by
  intro hempty
  have huser' := h.parseEntry_eq huser
  rw [hempty] at huser'
  exact huser.name_ne_empty (huser' ▸ rfl)

/-- **Users that are written are read back.** -/
theorem parseExtraUsers_written {users : List ExtraUserSpec} {entries : List String}
    (hwritten : List.Forall₂ Written users entries) (husers : ∀ user ∈ users, Writable user) :
    parseExtraUsers (join ',' entries) = users := by
  have hread : ∀ {users : List ExtraUserSpec} {entries : List String}, List.Forall₂ Written users entries →
      (∀ user ∈ users, Writable user) →
      (∀ entry ∈ entries, ',' ∉ entry.toList ∧ trim entry ≠ "") ∧
        (entries.map trim).map parseEntry = users := by
    intro users entries hwritten husers
    induction hwritten with
    | nil => exact ⟨fun _ h => absurd h List.not_mem_nil, rfl⟩
    | @cons user entry users entries h _ ih =>
      have huser := husers user List.mem_cons_self
      obtain ⟨hentries, hmap⟩ := ih fun user' h' => husers user' (List.mem_cons_of_mem _ h')
      refine ⟨fun entry' hentry' => ?_, ?_⟩
      · rcases List.mem_cons.mp hentry' with rfl | hentry'
        · exact ⟨h.not_mem_comma huser, h.trim_ne_empty huser⟩
        · exact hentries entry' hentry'
      · rw [List.map_cons, List.map_cons, h.parseEntry_eq huser, hmap]
  obtain ⟨hentries, hmap⟩ := hread hwritten husers
  cases entries with
  | nil =>
    rw [List.forall₂_nil_right_iff.mp hwritten]
    decide +kernel
  | cons entry rest =>
    have hitems : parseCommaList (join ',' (entry :: rest)) = (entry :: rest).map trim := by
      unfold parseCommaList parseList
      rw [(split_join_iff (List.cons_ne_nil entry rest)).mpr fun e he => (hentries e he).1,
        List.filter_eq_self]
      intro item hitem
      obtain ⟨e, he, rfl⟩ := List.mem_map.mp hitem
      exact decide_eq_true (hentries e he).2
    show (parseCommaList (join ',' (entry :: rest))).map parseEntry = users
    rw [hitems, hmap]

end Written

/-! ## Users that are cleaned up -/

section Cleaned

variable {names : List String}

/-- **Cleaned names are the firsts** of the trimmed ones that are not empty. -/
theorem cleanNames_eq (seen names : List String) :
    cleanNames seen names = firsts id seen ((names.map trim).filter fun name => name ≠ "") := by
  induction names generalizing seen with
  | nil => rfl
  | cons x rest ih =>
    unfold cleanNames
    dsimp only
    rw [List.map_cons]
    by_cases hempty : trim x = ""
    · rw [if_pos (Or.inl hempty), ih, List.filter_cons_of_neg (by simpa using hempty)]
    · rw [List.filter_cons_of_pos (by simpa using hempty)]
      by_cases hseen : trim x ∈ seen
      · have hid : id (trim x) ∈ seen := hseen
        rw [if_pos (Or.inr hseen), ih, firsts_cons_of_mem hid]
      · have hid : id (trim x) ∉ seen := hseen
        rw [if_neg (not_or.mpr ⟨hempty, hseen⟩), ih, firsts_cons_of_notMem hid]
        rfl

/-- The names of a list of names. -/
theorem cleanNames_eq_eraseDups (names : List String) :
    cleanNames [] names = ((names.map trim).filter fun name => name ≠ "").eraseDups := by
  have hmap := map_firsts id [] ((names.map trim).filter fun name => name ≠ "")
  rw [← cleanNames_eq, List.map_id, List.map_id] at hmap
  simpa using hmap

theorem cleanNames_nodup (names : List String) : (cleanNames [] names).Nodup := by
  have hnodup := nodup_firsts id [] ((names.map trim).filter fun name => name ≠ "")
  rwa [← cleanNames_eq, List.map_id] at hnodup

/-- Names that are clean stay as they are. -/
theorem cleanNames_eq_self (hnames : ∀ name ∈ names, trim name = name ∧ name ≠ "") (h : names.Nodup) :
    cleanNames [] names = names := by
  have htrims : names.map trim = names := by
    rw [List.map_congr_left fun name hname => (hnames name hname).1, List.map_id']
  have hkept : names.filter (fun name => name ≠ "") = names :=
    List.filter_eq_self.mpr fun name hname => decide_eq_true (hnames name hname).2
  rw [cleanNames_eq, htrims, hkept]
  exact firsts_eq_self ((List.map_id names).symm ▸ h) fun _ _ => List.not_mem_nil

/-- A user with its names trimmed and its schemas cleaned up. -/
def cleanUser (user : ExtraUserSpec) : ExtraUserSpec :=
  { name := trim user.name, schemas := cleanNames [] user.schemas }

/-- Whether a user has a name of its own. -/
def hasOwnName (analytics : String) (user : ExtraUserSpec) : Bool :=
  user.name ≠ "" ∧ user.name ≠ analytics

/-- **Cleaned users are the firsts** of those with a name of their own. -/
theorem cleanUsers_eq (analytics : String) (seen : List String) (users : List ExtraUserSpec) :
    cleanUsers analytics seen users =
      firsts ExtraUserSpec.name seen ((users.map cleanUser).filter (hasOwnName analytics)) := by
  induction users generalizing seen with
  | nil => rfl
  | cons u rest ih =>
    unfold cleanUsers
    dsimp only
    rw [List.map_cons]
    by_cases hown : trim u.name ≠ "" ∧ trim u.name ≠ analytics
    · have hkept : hasOwnName analytics (cleanUser u) = true := decide_eq_true hown
      rw [List.filter_cons_of_pos hkept]
      by_cases hseen : trim u.name ∈ seen
      · have hname : (cleanUser u).name ∈ seen := hseen
        rw [if_pos (Or.inr (Or.inr hseen)), ih, firsts_cons_of_mem hname]
      · have hname : (cleanUser u).name ∉ seen := hseen
        have hnone : ¬ (trim u.name = "" ∨ trim u.name = analytics ∨ trim u.name ∈ seen) :=
          not_or.mpr ⟨hown.1, not_or.mpr ⟨hown.2, hseen⟩⟩
        rw [if_neg hnone, ih, firsts_cons_of_notMem hname]
        rfl
    · have hdropped : ¬ hasOwnName analytics (cleanUser u) = true := fun h => hown (of_decide_eq_true h)
      have hnone : trim u.name = "" ∨ trim u.name = analytics ∨ trim u.name ∈ seen := by
        by_contra hkept
        obtain ⟨hempty, hrest⟩ := not_or.mp hkept
        exact hown ⟨hempty, fun hanalytics => hrest (Or.inl hanalytics)⟩
      rw [List.filter_cons_of_neg hdropped, if_pos hnone, ih]

variable (spec : ReplicaSpec)

/-- **A user that is provisioned** is the first of its name, and has a name of its own. -/
theorem extraUsers_first {user : ExtraUserSpec} (h : user ∈ extraUsers spec) :
    user.name ≠ "" ∧ user.name ≠ spec.analyticsUsername ∧
      ∃ first, spec.extraUsers.find? (fun u => trim u.name = user.name) = some first ∧
        cleanUser first = user := by
  unfold extraUsers at h
  rw [cleanUsers_eq] at h
  have hfirst := find?_of_mem_firsts h
  have hmem := List.mem_of_find?_eq_some hfirst
  obtain ⟨hne, hanalytics⟩ := of_decide_eq_true (List.mem_filter.mp hmem).2
  refine ⟨hne, hanalytics, ?_⟩
  rw [List.find?_filter, List.find?_map, Option.map_eq_some_iff] at hfirst
  obtain ⟨first, hfound, hclean⟩ := hfirst
  refine ⟨first, ?_, hclean⟩
  -- what was left out has another name
  have hsame : (fun u : ExtraUserSpec => decide (trim u.name = user.name)) = (fun u =>
      decide (hasOwnName spec.analyticsUsername u = true ∧ decide (u.name = user.name) = true)) ∘ cleanUser := by
    funext u
    apply decide_eq_decide.mpr
    rw [decide_eq_true_eq]
    constructor
    · intro hname
      refine ⟨decide_eq_true ?_, hname⟩
      show trim u.name ≠ "" ∧ trim u.name ≠ spec.analyticsUsername
      rw [hname]
      exact ⟨hne, hanalytics⟩
    · exact fun h => h.2
  rw [hsame]
  exact hfound

/-- A user that is provisioned is clean. -/
theorem extraUsers_clean {user : ExtraUserSpec} (h : user ∈ extraUsers spec) :
    trim user.name = user.name ∧ (∀ schema ∈ user.schemas, trim schema = schema ∧ schema ≠ "") ∧
      user.schemas.Nodup := by
  obtain ⟨_, _, first, _, rfl⟩ := extraUsers_first spec h
  refine ⟨trim_trim first.name, fun schema hschema => ?_, cleanNames_nodup first.schemas⟩
  change schema ∈ cleanNames [] first.schemas at hschema
  rw [cleanNames_eq_eraseDups, List.mem_eraseDups, List.mem_filter, List.mem_map] at hschema
  obtain ⟨⟨x, _, rfl⟩, hne⟩ := hschema
  exact ⟨trim_trim x, of_decide_eq_true hne⟩

theorem extraUsers_names_nodup : ((extraUsers spec).map ExtraUserSpec.name).Nodup := by
  unfold extraUsers
  rw [cleanUsers_eq]
  exact nodup_firsts _ _ _

/-- The names, where they first appear. -/
theorem extraUsers_names : (extraUsers spec).map ExtraUserSpec.name =
    ((spec.extraUsers.map fun user => trim user.name).filter fun name =>
      name ≠ "" ∧ name ≠ spec.analyticsUsername).eraseDups := by
  unfold extraUsers
  have hnames : ((spec.extraUsers.map cleanUser).filter (hasOwnName spec.analyticsUsername)).map
      ExtraUserSpec.name = (spec.extraUsers.map fun user => trim user.name).filter fun name =>
        name ≠ "" ∧ name ≠ spec.analyticsUsername := by
    rw [List.filter_map, List.map_map, List.filter_map]
    rfl
  rw [cleanUsers_eq, map_firsts, hnames]
  simp

/-- **Cleaning up twice is cleaning up once.** -/
theorem extraUsers_extraUsers :
    extraUsers { spec with extraUsers := extraUsers spec } = extraUsers spec := by
  have hclean : (extraUsers spec).map cleanUser = extraUsers spec := by
    have hself : ∀ user ∈ extraUsers spec, cleanUser user = user := by
      intro user huser
      obtain ⟨hname, hschemas, hnodup⟩ := extraUsers_clean spec huser
      unfold cleanUser
      rw [hname, cleanNames_eq_self hschemas hnodup]
    rw [List.map_congr_left hself, List.map_id']
  have hkept : (extraUsers spec).filter (hasOwnName spec.analyticsUsername) = extraUsers spec := by
    rw [List.filter_eq_self]
    intro user huser
    obtain ⟨hne, hanalytics, _⟩ := extraUsers_first spec huser
    exact decide_eq_true ⟨hne, hanalytics⟩
  show cleanUsers spec.analyticsUsername [] (extraUsers spec) = extraUsers spec
  rw [cleanUsers_eq, hclean, hkept]
  exact firsts_eq_self (extraUsers_names_nodup spec) fun _ _ => List.not_mem_nil

end Cleaned

/-- **Extra users are read back as they were written, and provisioned once.**  What is provisioned is clean,
    and the first of its name; it is in the order of the names, and cleaning it up again changes nothing. -/
theorem extra_users_read_and_cleaned :
    (∀ (users : List ExtraUserSpec) (entries : List String), (∀ user ∈ users, Writable user) →
      List.Forall₂ Written users entries → parseExtraUsers (join ',' entries) = users) ∧
    ∀ spec : ReplicaSpec,
      (∀ user ∈ extraUsers spec, trim user.name = user.name ∧ user.name ≠ "" ∧
        user.name ≠ spec.analyticsUsername ∧
        (∀ schema ∈ user.schemas, trim schema = schema ∧ schema ≠ "") ∧ user.schemas.Nodup) ∧
      ((extraUsers spec).map ExtraUserSpec.name).Nodup ∧
      ((extraUsers spec).map ExtraUserSpec.name =
        ((spec.extraUsers.map fun user => trim user.name).filter fun name =>
          name ≠ "" ∧ name ≠ spec.analyticsUsername).eraseDups) ∧
      (∀ user ∈ extraUsers spec, ∃ first,
        spec.extraUsers.find? (fun u => trim u.name = user.name) = some first ∧
          user.schemas = ((first.schemas.map trim).filter fun schema => schema ≠ "").eraseDups) ∧
      extraUsers { spec with extraUsers := extraUsers spec } = extraUsers spec := by
  refine ⟨fun users entries husers hwritten => parseExtraUsers_written hwritten husers, fun spec => ?_⟩
  refine ⟨fun user huser => ?_, extraUsers_names_nodup spec, extraUsers_names spec, fun user huser => ?_,
    extraUsers_extraUsers spec⟩
  · obtain ⟨hname, hschemas, hnodup⟩ := extraUsers_clean spec huser
    obtain ⟨hne, hanalytics, _⟩ := extraUsers_first spec huser
    exact ⟨hname, hne, hanalytics, hschemas, hnodup⟩
  · obtain ⟨_, _, first, hfound, rfl⟩ := extraUsers_first spec huser
    exact ⟨first, hfound, cleanNames_eq_eraseDups first.schemas⟩

/-- Two users, written with blanks. -/
theorem two_users_read_back :
    parseExtraUsers "reporting , dbt_reader: dbt +staging" =
      [{ name := "reporting" }, { name := "dbt_reader", schemas := ["dbt", "staging"] }] := by
  let reader : ExtraUserSpec := { name := "dbt_reader", schemas := ["dbt", "staging"] }
  have hfirst : Written { name := "reporting" } "reporting " :=
    .name rfl ⟨"", " ", by decide +kernel, by decide +kernel, rfl⟩
  have hname : Padded reader.name " dbt_reader" := ⟨" ", "", by decide +kernel, by decide +kernel, rfl⟩
  have hschemas : List.Forall₂ Padded reader.schemas [" dbt ", "staging"] :=
    .cons ⟨" ", " ", by decide +kernel, by decide +kernel, rfl⟩
      (.cons ⟨"", "", by decide +kernel, by decide +kernel, rfl⟩ .nil)
  have hsecond : Written reader (" dbt_reader" ++ String.singleton ':' ++ join '+' [" dbt ", "staging"]) :=
    .schemas (List.cons_ne_nil _ _) hname hschemas
  have hread := extra_users_read_and_cleaned.1 _ _ (fun user huser => ?_) (.cons hfirst (.cons hsecond .nil))
  · have htext : join ',' ["reporting ", " dbt_reader" ++ String.singleton ':' ++ join '+' [" dbt ", "staging"]] =
        "reporting , dbt_reader: dbt +staging" := by decide +kernel
    rw [← htext]
    exact hread
  · rcases List.mem_cons.mp huser with rfl | huser
    · constructor <;> decide +kernel
    · rw [List.mem_singleton.mp huser]
      constructor <;> decide +kernel

end RestoreOperator
