import SimpleSshd.Dropbear.AuthKeys

/-!
# Proofs: the language of key options

The options of a key are items between commas. `OptionsText` says which texts are options and what
their items are; `svr_add_pubkey_options` accepts these and no others, and sets what the items say.
-/

namespace SimpleSshd.Dropbear

variable {opts opts' : PubKeyOptions} {bs rest buf : Bytes}

/-! ## The grammar -/

inductive OptionItem
  | empty
  | no_port_forwarding
  | no_pty
  | command (text : Bytes)
  deriving DecidableEq

/-- The text of a command: a backslash goes with the byte after it, and no other byte is a quote. -/
inductive CommandText : Bytes → Prop
  | nil : CommandText []
  | plain {c : UInt8} {text : Bytes} (hquote : c ≠ QUOTE) (hbackslash : c ≠ BACKSLASH)
      (h : CommandText text) : CommandText (c :: text)
  | escaped (c : UInt8) {text : Bytes} (h : CommandText text) :
      CommandText (BACKSLASH :: c :: text)

/-- The same name, in upper or lower case. -/
def Caseless (name : String) (bs : Bytes) : Prop := bs.map toLower = (ascii name).map toLower

instance (name : String) (bs : Bytes) : Decidable (Caseless name bs) :=
  inferInstanceAs (Decidable (_ = _))

/-- How an item is written; `opens` says how a command begins. -/
def OptionItem.Spells (opens : Bytes → Prop) : OptionItem → Bytes → Prop
  | .empty, bs => bs = []
  | .no_port_forwarding, bs => Caseless "no-port-forwarding" bs
  | .no_pty, bs => Caseless "no-pty" bs
  | .command text, bs => CommandText text ∧ ∃ opener, opens opener ∧ bs = opener ++ text ++ [QUOTE]

/-- Items between commas. -/
inductive OptionsText (opens : Bytes → Prop) : List OptionItem → Bytes → Prop
  | one {item : OptionItem} {bs : Bytes} (h : item.Spells opens bs) : OptionsText opens [item] bs
  | cons {item : OptionItem} {items : List OptionItem} {bs rest : Bytes} (h : item.Spells opens bs)
      (hrest : OptionsText opens items rest) :
      OptionsText opens (item :: items) (bs ++ COMMA :: rest)

def OptionItem.command? : OptionItem → Option Bytes
  | .command text => some text
  | _ => none

/-- The commands among the items. -/
def commandsOf (items : List OptionItem) : List Bytes := items.filterMap OptionItem.command?

/-- Everything that the items say is set. -/
def PubKeyOptions.withItems (opts : PubKeyOptions) (items : List OptionItem) : PubKeyOptions where
  no_port_forwarding_flag :=
    opts.no_port_forwarding_flag || decide (OptionItem.no_port_forwarding ∈ items)
  no_pty_flag := opts.no_pty_flag || decide (OptionItem.no_pty ∈ items)
  forced_command := opts.forced_command <|> (commandsOf items).head?

/-! ## Names -/

theorem match_option_eq_some {name : String} :
    match_option buf name = some rest ↔ ∃ bs, Caseless name bs ∧ buf = bs ++ rest := by
  unfold match_option
  dsimp only
  constructor
  · intro h
    split_ifs at h with hshort hname
    obtain rfl := Option.some.inj h
    exact ⟨buf.take (ascii name).length, hname, (List.take_append_drop _ _).symm⟩
  · rintro ⟨bs, hname, rfl⟩
    have hlen : bs.length = (ascii name).length := by
      rw [← List.length_map toLower, hname, List.length_map]
    have hlong : ¬ (bs ++ rest).length < bs.length := by
      rw [List.length_append]
      omega
    rw [← hlen, if_neg hlong, List.take_left, List.drop_left]
    exact if_pos hname

theorem Caseless.starts {name : String} (h : Caseless name bs) (rest : Bytes) :
    (ascii name).map toLower <+: (bs ++ rest).map toLower := by
  have hprefix := (List.prefix_append bs rest).map toLower
  rwa [h] at hprefix

/-- A name is not matched where something else stands that neither begins with it nor is the beginning
of it. -/
theorem match_option_eq_none {lower : Bytes} {name : String} (hstart : lower <+: buf.map toLower)
    (hapart : ¬ lower <+: (ascii name).map toLower)
    (hapart' : ¬ (ascii name).map toLower <+: lower) : match_option buf name = none := by
  by_contra hsome
  obtain ⟨rest, hmatch⟩ := Option.ne_none_iff_exists'.mp hsome
  obtain ⟨bs, hname, rfl⟩ := match_option_eq_some.mp hmatch
  rcases List.prefix_or_prefix_of_prefix hstart (hname.starts rest) with h | h
  · exact hapart h
  · exact hapart' h

/-! ## Commands -/

theorem forced_command_scan_text {text : Bytes} (h : CommandText text) :
    forced_command_scan false (text ++ QUOTE :: rest) = some (text, rest) := by
  induction h with
  | nil => rfl
  | @plain c text hquote hbackslash _ ih =>
    have hnext : (!false && c == BACKSLASH) = false := by simp [hbackslash]
    rw [List.cons_append, forced_command_scan, if_neg (by simp [hquote]), hnext, ih]
    rfl
  | @escaped c text _ ih =>
    rw [List.cons_append, List.cons_append, forced_command_scan, if_neg (by decide),
      show (!false && BACKSLASH == BACKSLASH) = true from rfl, forced_command_scan,
      if_neg (by simp), Bool.not_true, Bool.false_and, ih]
    rfl

/-- **The scan of a command** ends at the first quote that is not escaped. -/
theorem forced_command_scan_eq_some {escaped : Bool} {cmd : Bytes}
    (h : forced_command_scan escaped bs = some (cmd, rest)) :
    bs = cmd ++ QUOTE :: rest ∧ CommandText (if escaped then BACKSLASH :: cmd else cmd) := by
  induction bs generalizing escaped cmd with
  | nil => cases h
  | cons c cs ih =>
    rw [forced_command_scan] at h
    split_ifs at h with hend
    · -- the quote
      obtain ⟨rfl, rfl⟩ := Prod.mk.inj (Option.some.inj h)
      obtain ⟨hescaped, hquote⟩ := Bool.and_eq_true_iff.mp hend
      rw [(Bool.not_eq_true' _).mp hescaped, beq_iff_eq.mp hquote]
      exact ⟨rfl, .nil⟩
    · obtain ⟨⟨cmd', rest'⟩, hscan, hcons⟩ := Option.map_eq_some_iff.mp h
      obtain ⟨rfl, rfl⟩ := Prod.mk.inj hcons
      obtain ⟨rfl, htext⟩ := ih hscan
      refine ⟨rfl, ?_⟩
      cases escaped with
      | true => exact .escaped c htext
      | false =>
        by_cases hbackslash : c = BACKSLASH
        · subst hbackslash
          exact htext
        · have hquote : c ≠ QUOTE := fun hq => hend (by rw [hq]; rfl)
          rw [show (!false && c == BACKSLASH) = false by simp [hbackslash]] at htext
          exact .plain hquote hbackslash htext

/-! ## Items -/

theorem withItems_empty (opts : PubKeyOptions) : opts.withItems [.empty] = opts := by
  cases opts
  simp [PubKeyOptions.withItems, commandsOf, OptionItem.command?]

theorem withItems_no_port_forwarding (opts : PubKeyOptions) :
    opts.withItems [.no_port_forwarding] = { opts with no_port_forwarding_flag := true } := by
  simp [PubKeyOptions.withItems, commandsOf, OptionItem.command?]

theorem withItems_no_pty (opts : PubKeyOptions) :
    opts.withItems [.no_pty] = { opts with no_pty_flag := true } := by
  simp [PubKeyOptions.withItems, commandsOf, OptionItem.command?]

theorem withItems_command (text : Bytes) (h : opts.forced_command = none) :
    opts.withItems [.command text] = { opts with forced_command := some text } := by
  simp [PubKeyOptions.withItems, commandsOf, OptionItem.command?, h]

theorem withItems_cons (opts : PubKeyOptions) (item : OptionItem) (items : List OptionItem) :
    opts.withItems (item :: items) = (opts.withItems [item]).withItems items := by
  have hhead : (commandsOf (item :: items)).head? =
      ((commandsOf [item]).head? <|> (commandsOf items).head?) := by
    cases item with
    | command text => rfl
    | _ => rfl
  simp only [PubKeyOptions.withItems, hhead, List.mem_cons, List.not_mem_nil, or_false,
    Bool.decide_or, Bool.or_assoc, PubKeyOptions.mk.injEq, true_and]
  cases opts.forced_command with
  | none => simp
  | some text => simp

/-- How a command begins, for the code. -/
def Opener : Bytes → Prop := Caseless "command=\""

/-- There is no second command. -/
def OptionItem.Fits (item : OptionItem) (opts : PubKeyOptions) : Prop :=
  item.command?.isSome = true → opts.forced_command = none

/-- **What is matched** is an item, or nothing is there. -/
theorem match_one_option_item (h : match_one_option opts buf = some (opts', rest)) :
    ∃ item bs, OptionItem.Spells Opener item bs ∧ buf = bs ++ rest ∧ item.Fits opts ∧
      opts' = opts.withItems [item] := by
  unfold match_one_option at h
  cases hport : match_option buf "no-port-forwarding" with
  | some rest' =>
    rw [hport] at h
    cases h
    obtain ⟨bs, hname, rfl⟩ := match_option_eq_some.mp hport
    exact ⟨.no_port_forwarding, bs, hname, rfl, nofun, (withItems_no_port_forwarding opts).symm⟩
  | none =>
    rw [hport] at h
    cases hpty : match_option buf "no-pty" with
    | some rest' =>
      rw [hpty] at h
      cases h
      obtain ⟨bs, hname, rfl⟩ := match_option_eq_some.mp hpty
      exact ⟨.no_pty, bs, hname, rfl, nofun, (withItems_no_pty opts).symm⟩
    | none =>
      rw [hpty] at h
      cases hcommand : match_option buf "command=\"" with
      | some rest' =>
        rw [hcommand] at h
        obtain ⟨opener, hname, rfl⟩ := match_option_eq_some.mp hcommand
        dsimp only at h
        split_ifs at h with hforced
        obtain ⟨⟨text, rest''⟩, hscan, hset⟩ := Option.map_eq_some_iff.mp h
        obtain ⟨rfl, rfl⟩ := Prod.mk.inj hset
        obtain ⟨rfl, htext⟩ := forced_command_scan_eq_some hscan
        have hfree : opts.forced_command = none := Option.not_isSome_iff_eq_none.mp hforced
        refine ⟨.command text, opener ++ text ++ [QUOTE], ⟨htext, opener, hname, rfl⟩, ?_,
          fun _ => hfree, (withItems_command text hfree).symm⟩
        simp only [List.append_assoc, List.singleton_append]
      | none =>
        rw [hcommand] at h
        cases h
        exact ⟨.empty, [], rfl, rfl, nofun, (withItems_empty opts).symm⟩

theorem match_one_option_command {text opener : Bytes} (htext : CommandText text)
    (hopener : Opener opener) (hfree : opts.forced_command = none) (rest : Bytes) :
    match_one_option opts (opener ++ text ++ [QUOTE] ++ rest) =
      some (opts.withItems [.command text], rest) := by
  have hstart := Caseless.starts hopener (text ++ QUOTE :: rest)
  rw [show opener ++ text ++ [QUOTE] ++ rest = opener ++ (text ++ QUOTE :: rest) by simp]
  unfold match_one_option
  rw [match_option_eq_none hstart (by decide) (by decide),
    match_option_eq_none hstart (by decide) (by decide),
    match_option_eq_some.mpr ⟨opener, hopener, rfl⟩, withItems_command text hfree]
  dsimp only
  rw [hfree, if_neg (by simp), forced_command_scan_text htext]
  rfl

/-- **An item is matched**, whatever follows after a comma. -/
theorem match_one_option_spells {item : OptionItem} (hitem : item.Spells Opener bs)
    (hfits : item.Fits opts) (hend : rest = [] ∨ ∃ ds, rest = COMMA :: ds) (hne : bs ++ rest ≠ []) :
    match_one_option opts (bs ++ rest) = some (opts.withItems [item], rest) := by
  cases item with
  | empty =>
    cases hitem
    unfold match_one_option
    rcases hend with rfl | ⟨ds, rfl⟩
    · exact absurd rfl hne
    · have hstart : [COMMA] <+: ([] ++ COMMA :: ds).map toLower := ⟨ds.map toLower, rfl⟩
      rw [match_option_eq_none hstart (by decide) (by decide),
        match_option_eq_none hstart (by decide) (by decide),
        match_option_eq_none hstart (by decide) (by decide), withItems_empty]
      rfl
  | no_port_forwarding =>
    unfold match_one_option
    rw [match_option_eq_some.mpr ⟨bs, hitem, rfl⟩, withItems_no_port_forwarding]
  | no_pty =>
    have hstart := Caseless.starts hitem rest
    unfold match_one_option
    rw [match_option_eq_none hstart (by decide) (by decide),
      match_option_eq_some.mpr ⟨bs, hitem, rfl⟩, withItems_no_pty]
  | command text =>
    obtain ⟨htext, opener, hopener, rfl⟩ := hitem
    exact match_one_option_command htext hopener (hfits rfl) rest

/-! ## The loop -/

/-- With what is already set there is at most one command. -/
def Room (opts : PubKeyOptions) (items : List OptionItem) : Prop :=
  opts.forced_command.isSome.toNat + (commandsOf items).length ≤ 1

theorem room_cons {item : OptionItem} {items : List OptionItem} :
    Room opts (item :: items) ↔ item.Fits opts ∧ Room (opts.withItems [item]) items := by
  have hother : ∀ {item : OptionItem}, item.command? = none →
      (Room opts (item :: items) ↔ item.Fits opts ∧ Room (opts.withItems [item]) items) := by
    intro item hitem
    have hfits : item.Fits opts := by
      intro hsome
      rw [hitem] at hsome
      cases hsome
    simp [Room, PubKeyOptions.withItems, commandsOf, hitem, hfits]
  cases item with
  | command text =>
    cases hforced : opts.forced_command with
    | none =>
      simp [Room, PubKeyOptions.withItems, commandsOf, OptionItem.command?, OptionItem.Fits, hforced]
    | some old =>
      simp [Room, commandsOf, OptionItem.command?, OptionItem.Fits, hforced]
  | _ => exact hother rfl

theorem add_pubkey_options_loop_nil (opts : PubKeyOptions) :
    add_pubkey_options_loop opts [] = some opts := by
  rw [add_pubkey_options_loop]

theorem add_pubkey_options_loop_end (hne : buf ≠ [])
    (h : match_one_option opts buf = some (opts', [])) : add_pubkey_options_loop opts buf = some opts' := by
  cases buf with
  | nil => exact absurd rfl hne
  | cons c cs =>
    rw [add_pubkey_options_loop]
    split
    case h_1 hnone =>
      rw [h] at hnone
      cases hnone
    case h_2 hsome =>
      rw [h] at hsome
      cases hsome
      rfl
    case h_3 hsome =>
      rw [h] at hsome
      cases hsome

theorem add_pubkey_options_loop_comma (hne : buf ≠ [])
    (h : match_one_option opts buf = some (opts', COMMA :: rest)) :
    add_pubkey_options_loop opts buf = add_pubkey_options_loop opts' rest := by
  cases buf with
  | nil => exact absurd rfl hne
  | cons c cs =>
    rw [add_pubkey_options_loop]
    split
    case h_1 hnone =>
      rw [h] at hnone
      cases hnone
    case h_2 hsome =>
      rw [h] at hsome
      cases hsome
    case h_3 hsome =>
      rw [h] at hsome
      cases hsome
      exact if_neg (not_not_intro rfl)

theorem add_pubkey_options_loop_bad {d : UInt8} (hd : d ≠ COMMA)
    (h : match_one_option opts buf = some (opts', d :: rest)) (hne : buf ≠ []) :
    add_pubkey_options_loop opts buf = none := by
  cases buf with
  | nil => exact absurd rfl hne
  | cons c cs =>
    rw [add_pubkey_options_loop]
    split
    case h_1 => rfl
    case h_2 hsome =>
      rw [h] at hsome
      cases hsome
    case h_3 hsome =>
      rw [h] at hsome
      cases hsome
      exact if_pos hd

/-- What the loop accepts consists of items. -/
theorem add_pubkey_options_loop_items (h : add_pubkey_options_loop opts buf = some opts') :
    ∃ items, OptionsText Opener items buf ∧ Room opts items ∧ opts' = opts.withItems items := by
  have hlast : ∀ {opts : PubKeyOptions} {item : OptionItem}, item.Fits opts → Room opts [item] := by
    intro opts item hfits
    refine room_cons.mpr ⟨hfits, ?_⟩
    show Bool.toNat _ + 0 ≤ 1
    exact Bool.toNat_le _
  fun_induction add_pubkey_options_loop opts buf with
  | case1 opts =>
    cases h
    exact ⟨[.empty], .one rfl, hlast nofun, (withItems_empty _).symm⟩
  | case2 opts c cs hnone => cases h
  | case3 opts c cs opts₁ hsome =>
    cases h
    obtain ⟨item, bs, hitem, hbuf, hfits, rfl⟩ := match_one_option_item hsome
    rw [List.append_nil] at hbuf
    rw [hbuf]
    exact ⟨[item], .one hitem, hlast hfits, rfl⟩
  | case4 opts c cs opts₁ d ds hsome hcomma => cases h
  | case5 opts c cs opts₁ d ds hsome hcomma ih =>
    obtain rfl : d = COMMA := not_not.mp hcomma
    obtain ⟨items, htext, hroom, rfl⟩ := ih h
    obtain ⟨item, bs, hitem, hbuf, hfits, rfl⟩ := match_one_option_item hsome
    rw [hbuf]
    exact ⟨item :: items, .cons hitem htext, room_cons.mpr ⟨hfits, hroom⟩,
      (withItems_cons opts item items).symm⟩

theorem OptionItem.eq_empty {item : OptionItem} (h : item.Spells Opener []) : item = .empty := by
  cases item with
  | empty => rfl
  | no_port_forwarding => exact absurd (congrArg List.length h) (by decide)
  | no_pty => exact absurd (congrArg List.length h) (by decide)
  | command text =>
    obtain ⟨-, opener, -, hnil⟩ := h
    exact absurd hnil.symm (List.append_ne_nil_of_right_ne_nil _ (List.cons_ne_nil _ _))

/-- Every text of items is accepted. -/
theorem add_pubkey_options_loop_text {items : List OptionItem} (h : OptionsText Opener items buf)
    (hroom : Room opts items) : add_pubkey_options_loop opts buf = some (opts.withItems items) := by
  induction h generalizing opts with
  | @one item bs hitem =>
    by_cases hnil : bs = []
    · subst hnil
      obtain rfl := OptionItem.eq_empty hitem
      rw [add_pubkey_options_loop_nil, withItems_empty]
    · have hone : match_one_option opts (bs ++ []) = some (opts.withItems [item], []) :=
        match_one_option_spells hitem (room_cons.mp hroom).1 (.inl rfl) (by rwa [List.append_nil])
      rw [List.append_nil] at hone
      exact add_pubkey_options_loop_end hnil hone
  | @cons item items bs rest hitem _ ih =>
    obtain ⟨hfits, hroom⟩ := room_cons.mp hroom
    have hne : bs ++ COMMA :: rest ≠ [] :=
      List.append_ne_nil_of_right_ne_nil _ (List.cons_ne_nil _ _)
    have hone := match_one_option_spells hitem hfits (.inr ⟨rest, rfl⟩) hne
    rw [add_pubkey_options_loop_comma hne hone, ih hroom, ← withItems_cons]

/-! ## The options -/

/-- **Key options fail closed and are never dropped**: exactly the texts of items with at most one
command are accepted, with everything set that the items say and nothing else; from all other texts
there are no options. -/
theorem key_options_language (field : Bytes) :
    (∀ opts, svr_add_pubkey_options field = (DROPBEAR_SUCCESS, some opts) ↔
        ∃ items, OptionsText (Caseless "command=\"") items field ∧ (commandsOf items).length ≤ 1 ∧
          opts = PubKeyOptions.withItems {} items) ∧
      (svr_add_pubkey_options field = (DROPBEAR_FAILURE, none) ↔
        ¬ ∃ items, OptionsText (Caseless "command=\"") items field ∧
          (commandsOf items).length ≤ 1) := by
  have hroom : ∀ {items : List OptionItem}, Room {} items ↔ (commandsOf items).length ≤ 1 := by
    intro items
    rw [Room]
    simp
  unfold svr_add_pubkey_options
  cases hloop : add_pubkey_options_loop {} field with
  | some opts =>
    obtain ⟨items, htext, hone, rfl⟩ := add_pubkey_options_loop_items hloop
    have haccepted : ∃ items, OptionsText (Caseless "command=\"") items field ∧
        (commandsOf items).length ≤ 1 := ⟨items, htext, hroom.mp hone⟩
    refine ⟨fun opts => ⟨?_, ?_⟩, ?_⟩
    · intro h
      cases h
      exact ⟨items, htext, hroom.mp hone, rfl⟩
    · rintro ⟨items', htext', hone', rfl⟩
      rw [add_pubkey_options_loop_text htext' (hroom.mpr hone')] at hloop
      rw [← Option.some.inj hloop]
    · exact ⟨nofun, fun hnone => absurd haccepted hnone⟩
  | none =>
    have hrejected : ¬ ∃ items, OptionsText (Caseless "command=\"") items field ∧
        (commandsOf items).length ≤ 1 := by
      rintro ⟨items, htext, hone⟩
      rw [add_pubkey_options_loop_text htext (hroom.mpr hone)] at hloop
      cases hloop
    refine ⟨fun opts => ⟨nofun, ?_⟩, fun _ => hrejected, fun _ => rfl⟩
    rintro ⟨items, htext, hone, -⟩
    exact absurd ⟨items, htext, hone⟩ hrejected

/-- **The case of `command=` does not matter** either: a text is accepted that is no option if only the
names of the flags may be in capitals. -/
theorem capital_command_accepted :
    svr_add_pubkey_options (ascii "COMMAND=\"ls\"") =
        (DROPBEAR_SUCCESS, some { forced_command := some (ascii "ls") }) ∧
      ¬ ∃ items, OptionsText (· = ascii "command=\"") items (ascii "COMMAND=\"ls\"") := by
  have htext : OptionsText Opener [.command (ascii "ls")] (ascii "COMMAND=\"ls\"") :=
    .one ⟨.plain (by decide) (by decide) (.plain (by decide) (by decide) .nil),
      ascii "COMMAND=\"", show Caseless _ _ by decide, by decide⟩
  have hroom : Room {} [.command (ascii "ls")] := Nat.le_refl 1
  refine ⟨?_, ?_⟩
  · rw [svr_add_pubkey_options, add_pubkey_options_loop_text htext hroom]
    rfl
  · rintro ⟨items, h⟩
    generalize hfield : ascii "COMMAND=\"ls\"" = field at h
    cases h with
    | @one item bs hitem =>
      subst hfield
      cases item with
      | empty => exact absurd (show ascii "COMMAND=\"ls\"" = [] from hitem) (by decide)
      | no_port_forwarding => exact absurd (show Caseless _ _ from hitem) (by decide)
      | no_pty => exact absurd (show Caseless _ _ from hitem) (by decide)
      | command text =>
        obtain ⟨-, opener, rfl, hbytes⟩ := hitem
        exact absurd (congrArg List.head? hbytes) (by simp [ascii])
    | @cons item items bs rest hitem hrest =>
      have hcomma : COMMA ∈ ascii "COMMAND=\"ls\"" := by
        rw [hfield]
        exact List.mem_append_right _ List.mem_cons_self
      exact absurd hcomma (by decide)

end SimpleSshd.Dropbear
