import AccessAudit.Text.Ascii

/-!
# Event handlers

The attributes that bind event handlers, by the category of their events.
-/

namespace AccessAudit

/-- A category of events. -/
inductive EventCategory where
  | clipboard
  | composition
  | keyboard
  | focus
  | form
  | mouse
  | selection
  | touch
  | ui
  | wheel
  | media
  | image
  | animation
  | transition
deriving DecidableEq, Repr

namespace EventCategory

/-- All categories. -/
def all : List EventCategory :=
  [.clipboard, .composition, .keyboard, .focus, .form, .mouse, .selection, .touch, .ui, .wheel,
    .media, .image, .animation, .transition]

/-- The name of a category as it is shown. -/
def name : EventCategory → String
  | .clipboard => "Clipboard"
  | .composition => "Composition"
  | .keyboard => "Keyboard"
  | .focus => "Focus"
  | .form => "Form"
  | .mouse => "Mouse"
  | .selection => "Selection"
  | .touch => "Touch"
  | .ui => "Ui"
  | .wheel => "Wheel"
  | .media => "Media"
  | .image => "Image"
  | .animation => "Animation"
  | .transition => "Transition"

/-- The handler attributes of a category. -/
def handlers : EventCategory → List String
  | .clipboard =>
    ["onCopy", "onCut", "onPaste"]
  | .composition =>
    ["onCompositionEnd", "onCompositionStart", "onCompositionUpdate"]
  | .keyboard =>
    ["onKeyDown", "onKeyPress", "onKeyUp"]
  | .focus =>
    ["onFocus", "onBlur"]
  | .form =>
    ["onChange", "onInput", "onSubmit"]
  | .mouse =>
    ["onClick", "onContextMenu", "onDblClick", "onDoubleClick", "onDrag", "onDragEnd",
      "onDragEnter", "onDragExit", "onDragLeave", "onDragOver", "onDragStart", "onDrop",
      "onMouseDown", "onMouseEnter", "onMouseLeave", "onMouseMove", "onMouseOut", "onMouseOver",
      "onMouseUp"]
  | .selection =>
    ["onSelect"]
  | .touch =>
    ["onTouchCancel", "onTouchEnd", "onTouchMove", "onTouchStart"]
  | .ui =>
    ["onScroll"]
  | .wheel =>
    ["onWheel"]
  | .media =>
    ["onAbort", "onCanPlay", "onCanPlayThrough", "onDurationChange", "onEmptied", "onEncrypted",
      "onEnded", "onLoadedData", "onLoadedMetadata", "onLoadStart", "onPause", "onPlay",
      "onPlaying", "onProgress", "onRateChange", "onSeeked", "onSeeking", "onStalled",
      "onSuspend", "onTimeUpdate", "onVolumeChange", "onWaiting"]
  | .image =>
    ["onLoad", "onError"]
  | .animation =>
    ["onAnimationStart", "onAnimationEnd", "onAnimationIteration"]
  | .transition =>
    ["onTransitionEnd"]

/-- The category of a handler attribute, ignoring case. -/
def ofHandler? (handler : String) : Option EventCategory :=
  all.find? fun category => category.handlers.any fun known => Text.eqIgnoringCase known handler

/-- The categories whose handlers make sense on interactive elements only. -/
def interaction : List EventCategory := [.focus, .image, .keyboard, .mouse]

/-- The handlers that make sense on interactive elements only. -/
def interactionHandlers : List String := interaction.flatMap handlers

end EventCategory
end AccessAudit
