
namespace BlockGraph

/-- A menu slot and the selector block that fills it. -/
structure Menu where
  input : String
  opcode : String
  field : String
  default : String
  options : List String := []
  deriving Inhabited, BEq

/-- Whether a menu takes `value` as one of its options. -/
def Menu.accepts (m : Menu) (value : String) : Bool :=
  m.options.isEmpty || m.options.contains value

/-- A built-in reporter or command block. -/
structure Primitive where
  name : String
  opcode : String := ""
  args : List String := []
  menu : Option Menu := none
  fields : String := ""
  sendsMessage : Bool := false
  deriving Inhabited, BEq

def Primitive.invalid : Primitive := { name := "<invalid>" }

def Primitive.isMenuSlot (p : Primitive) (slot : String) : Bool :=
  match p.menu with
  | some m => m.input == slot
  | none => false

/-- The slot whose literal argument names a message. -/
def broadcastInput : String := "BROADCAST_INPUT"

/-- The keys a key menu offers: five named keys, `any`, the letters and the digits. -/
def keyOptions : List String :=
  ["space", "up arrow", "down arrow", "left arrow", "right arrow", "any"] ++
    ((List.range 26).map fun i => String.singleton (Char.ofNat (97 + i))) ++
    ((List.range 10).map fun i => String.singleton (Char.ofNat (48 + i)))

/-- A fields object `{"NAME":["value",null]}` of fixed texts. -/
def fixedField (name value : String) : String :=
  "\x7b\"" ++ name ++ "\":[\"" ++ value ++ "\",null]\x7d"

def reporters : List Primitive := [
  { name := "x_position", opcode := "motion_xposition" },
  { name := "y_position", opcode := "motion_yposition" },
  { name := "direction", opcode := "motion_direction" },
  { name := "costume_number", opcode := "looks_costumenumbername",
    fields := fixedField "NUMBER_NAME" "number" },
  { name := "costume_name", opcode := "looks_costumenumbername",
    fields := fixedField "NUMBER_NAME" "name" },
  { name := "backdrop_number", opcode := "looks_backdropnumbername",
    fields := fixedField "NUMBER_NAME" "number" },
  { name := "backdrop_name", opcode := "looks_backdropnumbername",
    fields := fixedField "NUMBER_NAME" "name" },
  { name := "size", opcode := "looks_size" },
  { name := "volume", opcode := "sound_volume" },
  { name := "touching", opcode := "sensing_touchingobject", args := ["TOUCHINGOBJECTMENU"],
    menu := some { input := "TOUCHINGOBJECTMENU", opcode := "sensing_touchingobjectmenu",
                   field := "TOUCHINGOBJECTMENU", default := "_mouse_" } },
  { name := "touching_color", opcode := "sensing_touchingcolor", args := ["COLOR"] },
  { name := "key_pressed", opcode := "sensing_keypressed", args := ["KEY_OPTION"],
    menu := some { input := "KEY_OPTION", opcode := "sensing_keyoptions", field := "KEY_OPTION",
                   default := "space", options := keyOptions } },
  { name := "mouse_down", opcode := "sensing_mousedown" },
  { name := "mouse_x", opcode := "sensing_mousex" },
  { name := "mouse_y", opcode := "sensing_mousey" },
  { name := "loudness", opcode := "sensing_loudness" },
  { name := "timer", opcode := "sensing_timer" },
  { name := "answer", opcode := "sensing_answer" },
  { name := "username", opcode := "sensing_username" },
  { name := "days_since_2000", opcode := "sensing_dayssince2000" },
  { name := "distance_to", opcode := "sensing_distanceto", args := ["DISTANCETOMENU"],
    menu := some { input := "DISTANCETOMENU", opcode := "sensing_distancetomenu",
                   field := "DISTANCETOMENU", default := "_mouse_" } },
  { name := "random", opcode := "operator_random", args := ["FROM", "TO"] }
]

def soundMenu : Menu :=
  { input := "SOUND_MENU", opcode := "sound_sounds_menu", field := "SOUND_MENU", default := "pop" }

def commands : List Primitive := [
  { name := "broadcast", opcode := "event_broadcast", args := [broadcastInput], sendsMessage := true },
  { name := "broadcast_and_wait", opcode := "event_broadcastandwait", args := [broadcastInput],
    sendsMessage := true },
  { name := "move", opcode := "motion_movesteps", args := ["STEPS"] },
  { name := "turn_right", opcode := "motion_turnright", args := ["DEGREES"] },
  { name := "turn_left", opcode := "motion_turnleft", args := ["DEGREES"] },
  { name := "goto", opcode := "motion_gotoxy", args := ["X", "Y"] },
  { name := "go_to", opcode := "motion_goto", args := ["TO"],
    menu := some { input := "TO", opcode := "motion_goto_menu", field := "TO", default := "_random_" } },
  { name := "glide", opcode := "motion_glidesecstoxy", args := ["SECS", "X", "Y"] },
  { name := "point_in_direction", opcode := "motion_pointindirection", args := ["DIRECTION"] },
  { name := "change_x", opcode := "motion_changexby", args := ["DX"] },
  { name := "set_x", opcode := "motion_setx", args := ["X"] },
  { name := "change_y", opcode := "motion_changeyby", args := ["DY"] },
  { name := "set_y", opcode := "motion_sety", args := ["Y"] },
  { name := "if_on_edge_bounce", opcode := "motion_ifonedgebounce" },
  { name := "say", opcode := "looks_say", args := ["MESSAGE"] },
  { name := "say_for", opcode := "looks_sayforsecs", args := ["MESSAGE", "SECS"] },
  { name := "think", opcode := "looks_think", args := ["MESSAGE"] },
  { name := "switch_costume", opcode := "looks_switchcostumeto", args := ["COSTUME"],
    menu := some { input := "COSTUME", opcode := "looks_costume", field := "COSTUME", default := "costume1" } },
  { name := "next_costume", opcode := "looks_nextcostume" },
  { name := "switch_backdrop", opcode := "looks_switchbackdropto", args := ["BACKDROP"],
    menu := some { input := "BACKDROP", opcode := "looks_backdrops", field := "BACKDROP",
                   default := "backdrop1" } },
  { name := "next_backdrop", opcode := "looks_nextbackdrop" },
  { name := "change_size", opcode := "looks_changesizeby", args := ["CHANGE"] },
  { name := "set_size", opcode := "looks_setsizeto", args := ["SIZE"] },
  { name := "show", opcode := "looks_show" },
  { name := "hide", opcode := "looks_hide" },
  { name := "play_sound", opcode := "sound_play", args := ["SOUND_MENU"], menu := some soundMenu },
  { name := "play_sound_until_done", opcode := "sound_playuntildone", args := ["SOUND_MENU"],
    menu := some soundMenu },
  { name := "stop_all_sounds", opcode := "sound_stopallsounds" },
  { name := "set_volume", opcode := "sound_setvolumeto", args := ["VOLUME"] },
  { name := "wait", opcode := "control_wait", args := ["DURATION"] },
  { name := "wait_until", opcode := "control_wait_until", args := ["CONDITION"] },
  { name := "stop_all", opcode := "control_stop", fields := fixedField "STOP_OPTION" "all" },
  { name := "stop_this_script", opcode := "control_stop", fields := fixedField "STOP_OPTION" "this script" },
  { name := "clone", opcode := "control_create_clone_of", args := ["CLONE_OPTION"],
    menu := some { input := "CLONE_OPTION", opcode := "control_create_clone_of_menu",
                   field := "CLONE_OPTION", default := "_myself_" } },
  { name := "delete_this_clone", opcode := "control_delete_this_clone" },
  { name := "ask", opcode := "sensing_askandwait", args := ["QUESTION"] },
  { name := "reset_timer", opcode := "sensing_resettimer" },
  { name := "erase_all", opcode := "pen_clear" },
  { name := "stamp", opcode := "pen_stamp" },
  { name := "pen_down", opcode := "pen_penDown" },
  { name := "pen_up", opcode := "pen_penUp" },
  { name := "set_pen_size", opcode := "pen_setPenSizeTo", args := ["SIZE"] }
]

/-- The entry named `name` in a table and its number from 1. -/
def findNumbered (table : List Primitive) (name : String) : Option (Nat × Primitive) :=
  (table.zipIdx 1).findSome? fun (p, i) => if p.name == name then some (i, p) else none

def lookupReporter (name : String) : Option (Nat × Primitive) := findNumbered reporters name

def lookupCommand (name : String) : Option (Nat × Primitive) := findNumbered commands name

/-- A hat block: what starts a script, and the field that takes the script's argument. -/
structure Hat where
  name : String
  opcode : String
  field : String := ""
  deriving Inhabited, BEq

def hats : List Hat := [
  { name := "flag", opcode := "event_whenflagclicked" },
  { name := "clicked", opcode := "event_whenthisspriteclicked" },
  { name := "key", opcode := "event_whenkeypressed", field := "KEY_OPTION" },
  { name := "backdrop", opcode := "event_whenbackdropswitchesto", field := "BACKDROP" },
  { name := "clone", opcode := "control_start_as_clone" }
]

def lookupHat (name : String) : Option Hat := hats.find? (·.name == name)

-- Opcodes of the blocks that statements, scripts and procedures are written with.
namespace Opcode
def whenBroadcastReceived : String := "event_whenbroadcastreceived"
def procDefinition : String := "procedures_definition"
def procPrototype : String := "procedures_prototype"
def procCall : String := "procedures_call"
def argReporter : String := "argument_reporter_string_number"
def repeatTimes : String := "control_repeat"
def forever : String := "control_forever"
def ifThen : String := "control_if"
def ifElse : String := "control_if_else"
def repeatUntil : String := "control_repeat_until"
def setVariable : String := "data_setvariableto"
def changeVariable : String := "data_changevariableby"
def showVariable : String := "data_showvariable"
def hideVariable : String := "data_hidevariable"
def showList : String := "data_showlist"
def hideList : String := "data_hidelist"
def addToList : String := "data_addtolist"
def deleteOfList : String := "data_deleteoflist"
def deleteAllOfList : String := "data_deletealloflist"
def insertAtList : String := "data_insertatlist"
def replaceItemOfList : String := "data_replaceitemoflist"
def itemOfList : String := "data_itemoflist"
end Opcode

end BlockGraph
