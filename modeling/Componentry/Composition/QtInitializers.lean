import Componentry.Composition.Initializer

/-
  The built-in initializers: the event loops of Qt 4 and Qt 5.

  Both run the application object in a thread of its own that
  is started before the components and joined after them.

  Key definitions:
    * `Qt.qt4`, `Qt.qt5`
    * `InitializerRegistry.builtin`
-/

------------------------------------------------------------
-- Code
------------------------------------------------------------

namespace Componentry

namespace Qt

/- The thread function of the event loop. -/
def globalScope : String :=
  Text.unlines
    ["static int QT_ARGC = 1;",
     "static char const* QT_ARGV[] = \x7b \"orogen\", nullptr \x7d;",
     "#include <pthread.h>",
     "#include <QApplication>",
     "",
     "void* qt_thread_main(void*)",
     "\x7b",
     "    QApplication *qapp = new QApplication(QT_ARGC, const_cast<char**>(QT_ARGV));",
     "    qapp->setQuitOnLastWindowClosed(false);",
     "    // Other threads talk to the event loop through postEvent only, which is",
     "    // safe before the QApplication exists.",
     "    qapp->exec();",
     "    return NULL;",
     "\x7d"]

/- Starting the thread. -/
def init : String :=
  Text.unlines
    ["pthread_t qt_thread;",
     "pthread_create(&qt_thread, NULL, qt_thread_main, NULL);"]

/- Stopping the event loop and joining the thread. -/
def exit : String :=
  Text.unlines
    ["QApplication::instance()->exit();",
     "pthread_join(qt_thread, NULL);"]

/- A reference to a variable of the build description. -/
def valueOf (name : String) : String :=
  "$\x7b" ++ name ++ "\x7d"

/- The placeholder of the project's name in upper case. -/
def upperProject : String :=
  "\x7b\x7bproject|upper\x7d\x7d"

/- The libraries that the task library depends on. -/
def dependentLibraries : String :=
  upperProject ++ "_TASKLIB_DEPENDENT_LIBRARIES"

end Qt

end Componentry

------------------------------------------------------------
-- Build Descriptions
------------------------------------------------------------

namespace Componentry

namespace Qt

/- Finding Qt 4 and its directories. -/
def qt4Directories : List String :=
  ["find_package(Qt4 REQUIRED)",
   "include(" ++ valueOf "QT_USE_FILE" ++ ")",
   "include_directories(" ++ valueOf "QT_INCLUDE_DIR" ++ ")",
   "link_directories(" ++ valueOf "QT_LIBRARY_DIR" ++ ")"]

/- Linking a task library with Qt 4. -/
def qt4TaskLibrary : String :=
  Text.unlines <| qt4Directories ++
    ["set(CMAKE_AUTOMOC true)",
     "",
     "target_link_libraries("
       ++ valueOf (upperProject ++ "_TASKLIB_NAME"),
     "    " ++ valueOf "OrocosRTT_LIBRARIES",
     "    " ++ valueOf "QT_LIBRARIES",
     "    " ++ valueOf dependentLibraries ++ ")"]

/- Linking a deployment with Qt 4. -/
def qt4Deployment : String :=
  Text.unlines <| qt4Directories ++
    ["target_link_libraries(\x7b\x7bdeployment\x7d\x7d "
       ++ valueOf "QT_LIBRARIES" ++ ")",
     "set(CMAKE_AUTOMOC true)"]

/- Finding Qt 5. -/
def qt5Package : List String :=
  ["find_package(Rock REQUIRED)",
   "rock_find_qt5(Core Gui Widgets UiTools)"]

/- Linking a task library with Qt 5. -/
def qt5TaskLibrary : String :=
  Text.unlines <| qt5Package ++
    ["target_link_libraries("
       ++ valueOf (upperProject ++ "_TASKLIB_NAME")
       ++ " PUBLIC",
     "    " ++ valueOf "OrocosRTT_LIBRARIES",
     "    Qt5::Core",
     "    Qt5::Gui",
     "    Qt5::Widgets",
     "    Qt5::UiTools",
     "    " ++ valueOf dependentLibraries ++ ")",
     "set(CMAKE_AUTOMOC true)"]

/- Linking a deployment with Qt 5. -/
def qt5Deployment : String :=
  Text.unlines <| qt5Package ++
    ["target_link_libraries(\x7b\x7bdeployment\x7d\x7d "
       ++ "Qt5::Core Qt5::Gui Qt5::Widgets Qt5::UiTools)",
     "set(CMAKE_AUTOMOC true)"]

/- The modules of Qt 5 that are used. -/
def qt5Modules : List String :=
  ["Qt5Core", "Qt5Gui", "Qt5Widgets", "Qt5UiTools"]

/- Finding the modules of Qt 5 for a task library. -/
def qt5Dependencies : String :=
  Text.unlines <|
    (qt5Modules.flatMap fun name =>
      ["pkg_check_modules(" ++ name ++ " REQUIRED "
         ++ name ++ ")",
       "include_directories("
         ++ valueOf (name ++ "_INCLUDE_DIRS") ++ ")",
       "link_directories("
         ++ valueOf (name ++ "_LIBRARY_DIRS") ++ ")"])
    ++ [""]
    ++ (qt5Modules.map fun name =>
      "list(APPEND " ++ dependentLibraries ++ " "
        ++ valueOf (name ++ "_LIBRARIES") ++ ")")

end Qt

end Componentry

------------------------------------------------------------
-- Initializers
------------------------------------------------------------

namespace Componentry

namespace Qt

/- What both initializers have in common. -/
def eventLoop (name : String) : Except TemplateFault Initializer := do
  let initializer ←
    (Initializer.named name).withGlobalScope globalScope
  let initializer ← initializer.withInit init
  initializer.withExit exit

/- The event loop of Qt 4. -/
def qt4 : Except TemplateFault Initializer := do
  let initializer ← eventLoop "qt"
  let initializer ←
    initializer.withBuild .taskLibrary qt4TaskLibrary
  initializer.withBuild .deployment qt4Deployment

/- The event loop of Qt 5. -/
def qt5 : Except TemplateFault Initializer := do
  let initializer ← eventLoop "qt5"
  let initializer ←
    initializer.withBuild .taskLibrary qt5TaskLibrary
  let initializer ←
    initializer.withBuild .deployment qt5Deployment
  initializer.withBuild .taskLibraryDependencies
    qt5Dependencies

end Qt

namespace InitializerRegistry

/-
  Register an initializer in a chain, which ends if one of its
  templates is at fault or if it is refused.
-/
def registerChecked
    (registry : InitializerRegistry)
    (initializer : Except TemplateFault Initializer) :
    Except ComposeError InitializerRegistry :=
  match initializer with
  | .error fault => .error (.config (.template fault))
  | .ok initializer =>
      match registry.register initializer with
      | (.error error, _) => .error error
      | (.ok (), registry) => .ok registry

/- The registry of the built-in initializers. -/
def builtin : Except ComposeError InitializerRegistry := do
  let registry ← empty.registerChecked Qt.qt4
  registry.registerChecked Qt.qt5

end InitializerRegistry

end Componentry
