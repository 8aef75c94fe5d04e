namespace Callout

inductive Key where
  | escape | one | two | three | four | five | six | seven | eight | nine | zero | minus | equals
  | backspace | tab | q | w | e | r | t | y | u | i | o | p | leftBracket | rightBracket | enter
  | leftControl | a | s | d | f | g | h | j | k | l | semicolon | apostrophe | grave | leftShift
  | backslash | z | x | c | v | b | n | m | comma | period | slash | leftAlt | space | capsLock
  | f1 | f2 | f3 | f4 | f5 | f6 | f7 | f8 | f9 | f10 | f11 | f12
  deriving DecidableEq, Repr

namespace Key

def all : List Key :=
  [.escape, .one, .two, .three, .four, .five, .six, .seven, .eight, .nine, .zero, .minus,
   .equals, .backspace, .tab, .q, .w, .e, .r, .t, .y, .u, .i, .o, .p, .leftBracket,
   .rightBracket, .enter, .leftControl, .a, .s, .d, .f, .g, .h, .j, .k, .l, .semicolon,
   .apostrophe, .grave, .leftShift, .backslash, .z, .x, .c, .v, .b, .n, .m, .comma, .period,
   .slash, .leftAlt, .space, .capsLock, .f1, .f2, .f3, .f4, .f5, .f6, .f7, .f8, .f9, .f10, .f11,
   .f12]

def name : Key → String
  | .escape => "Escape"
  | .one => "One"
  | .two => "Two"
  | .three => "Three"
  | .four => "Four"
  | .five => "Five"
  | .six => "Six"
  | .seven => "Seven"
  | .eight => "Eight"
  | .nine => "Nine"
  | .zero => "Zero"
  | .minus => "Minus"
  | .equals => "Equals"
  | .backspace => "Backspace"
  | .tab => "Tab"
  | .q => "Q"
  | .w => "W"
  | .e => "E"
  | .r => "R"
  | .t => "T"
  | .y => "Y"
  | .u => "U"
  | .i => "I"
  | .o => "O"
  | .p => "P"
  | .leftBracket => "LeftBracket"
  | .rightBracket => "RightBracket"
  | .enter => "Enter"
  | .leftControl => "LeftControl"
  | .a => "A"
  | .s => "S"
  | .d => "D"
  | .f => "F"
  | .g => "G"
  | .h => "H"
  | .j => "J"
  | .k => "K"
  | .l => "L"
  | .semicolon => "Semicolon"
  | .apostrophe => "Apostrophe"
  | .grave => "Grave"
  | .leftShift => "LeftShift"
  | .backslash => "Backslash"
  | .z => "Z"
  | .x => "X"
  | .c => "C"
  | .v => "V"
  | .b => "B"
  | .n => "N"
  | .m => "M"
  | .comma => "Comma"
  | .period => "Period"
  | .slash => "Slash"
  | .leftAlt => "LeftAlt"
  | .space => "Space"
  | .capsLock => "CapsLock"
  | .f1 => "F1"
  | .f2 => "F2"
  | .f3 => "F3"
  | .f4 => "F4"
  | .f5 => "F5"
  | .f6 => "F6"
  | .f7 => "F7"
  | .f8 => "F8"
  | .f9 => "F9"
  | .f10 => "F10"
  | .f11 => "F11"
  | .f12 => "F12"

def ofName? (s : String) : Option Key :=
  all.find? (·.name == s)

/-- The set 1 make code of the key. Input event codes agree with it for every key here. -/
def scanCode : Key → Nat
  | .escape => 0x01
  | .one => 0x02
  | .two => 0x03
  | .three => 0x04
  | .four => 0x05
  | .five => 0x06
  | .six => 0x07
  | .seven => 0x08
  | .eight => 0x09
  | .nine => 0x0A
  | .zero => 0x0B
  | .minus => 0x0C
  | .equals => 0x0D
  | .backspace => 0x0E
  | .tab => 0x0F
  | .q => 0x10
  | .w => 0x11
  | .e => 0x12
  | .r => 0x13
  | .t => 0x14
  | .y => 0x15
  | .u => 0x16
  | .i => 0x17
  | .o => 0x18
  | .p => 0x19
  | .leftBracket => 0x1A
  | .rightBracket => 0x1B
  | .enter => 0x1C
  | .leftControl => 0x1D
  | .a => 0x1E
  | .s => 0x1F
  | .d => 0x20
  | .f => 0x21
  | .g => 0x22
  | .h => 0x23
  | .j => 0x24
  | .k => 0x25
  | .l => 0x26
  | .semicolon => 0x27
  | .apostrophe => 0x28
  | .grave => 0x29
  | .leftShift => 0x2A
  | .backslash => 0x2B
  | .z => 0x2C
  | .x => 0x2D
  | .c => 0x2E
  | .v => 0x2F
  | .b => 0x30
  | .n => 0x31
  | .m => 0x32
  | .comma => 0x33
  | .period => 0x34
  | .slash => 0x35
  | .leftAlt => 0x38
  | .space => 0x39
  | .capsLock => 0x3A
  | .f1 => 0x3B
  | .f2 => 0x3C
  | .f3 => 0x3D
  | .f4 => 0x3E
  | .f5 => 0x3F
  | .f6 => 0x40
  | .f7 => 0x41
  | .f8 => 0x42
  | .f9 => 0x43
  | .f10 => 0x44
  | .f11 => 0x57
  | .f12 => 0x58

def char? : Key → Option Char
  | .one => some '1'
  | .two => some '2'
  | .three => some '3'
  | .four => some '4'
  | .five => some '5'
  | .six => some '6'
  | .seven => some '7'
  | .eight => some '8'
  | .nine => some '9'
  | .zero => some '0'
  | .minus => some '-'
  | .equals => some '='
  | .q => some 'q'
  | .w => some 'w'
  | .e => some 'e'
  | .r => some 'r'
  | .t => some 't'
  | .y => some 'y'
  | .u => some 'u'
  | .i => some 'i'
  | .o => some 'o'
  | .p => some 'p'
  | .leftBracket => some '['
  | .rightBracket => some ']'
  | .a => some 'a'
  | .s => some 's'
  | .d => some 'd'
  | .f => some 'f'
  | .g => some 'g'
  | .h => some 'h'
  | .j => some 'j'
  | .k => some 'k'
  | .l => some 'l'
  | .semicolon => some ';'
  | .apostrophe => some '\x27'
  | .grave => some '\x60'
  | .backslash => some '\\'
  | .z => some 'z'
  | .x => some 'x'
  | .c => some 'c'
  | .v => some 'v'
  | .b => some 'b'
  | .n => some 'n'
  | .m => some 'm'
  | .comma => some ','
  | .period => some '.'
  | .slash => some '/'
  | .space => some ' '
  | _ => none

end Key

end Callout
