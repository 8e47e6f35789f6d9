import JavaAtlas.Entry

/-! A catalog of core types of the Java platform: the types of `java.lang`, `java.io` and
`java.util` that most sources refer to, with the members that are asked for most. -/

namespace JavaAtlas.Catalog

/-- A public method. -/
def method (returns name : String) (params : List String)
    (modifiers : List String := ["public"]) : MethodEntry :=
  { name := some name, returns, params, modifiers }

/-- A public method without a body. -/
def abstractMethod (returns name : String) (params : List String) : MethodEntry :=
  method returns name params ["public", "abstract"]

/-- A public constructor. -/
def constructor (name : String) (params : List String) : MethodEntry :=
  { name := some name, params, isConstructor := true }

/-- A public constant. -/
def constant (type name : String) : FieldEntry :=
  { name := some name, type := some type, modifiers := ["public", "static", "final"] }

/-- Types of the package `java.lang` and its subpackages. -/
def langTypes : List (String × Entry) := [
  ("java.lang.Object",
    { methods := [constructor "Object" [],
        method "java.lang.Class" "getClass" [] ["public", "final", "native"],
        method "int" "hashCode" [] ["public", "native"],
        method "boolean" "equals" ["java.lang.Object"], method "java.lang.String" "toString" [],
        method "void" "notify" [] ["public", "final", "native"],
        method "void" "notifyAll" [] ["public", "final", "native"],
        method "void" "wait" [] ["public", "final"],
        method "void" "wait" ["long"] ["public", "final"]] }),
  ("java.lang.String",
    { modifiers := ["public", "final"]
      interfaces := ["java.io.Serializable", "java.lang.Comparable", "java.lang.CharSequence"]
      methods := [constructor "String" [], constructor "String" ["char[]"],
        method "int" "length" [], method "boolean" "isEmpty" [], method "char" "charAt" ["int"],
        method "java.lang.String" "substring" ["int", "int"], method "java.lang.String" "trim" [],
        method "byte[]" "getBytes" [],
        method "java.lang.String" "valueOf" ["java.lang.Object"] ["public", "static"]] }),
  ("java.lang.CharSequence", { kind := .interfaceType }),
  ("java.lang.Comparable",
    { kind := .interfaceType
      methods := [abstractMethod "int" "compareTo" ["T"]] }),
  ("java.lang.Iterable",
    { kind := .interfaceType
      methods := [abstractMethod "java.util.Iterator" "iterator" []] }),
  ("java.lang.Runnable",
    { kind := .interfaceType
      methods := [abstractMethod "void" "run" []] }),
  ("java.lang.Cloneable", { kind := .interfaceType }),
  ("java.lang.AutoCloseable",
    { kind := .interfaceType
      methods := [abstractMethod "void" "close" []] }),
  ("java.lang.Readable", { kind := .interfaceType }),
  ("java.lang.Appendable", { kind := .interfaceType }),
  ("java.lang.Number",
    { modifiers := ["public", "abstract"]
      interfaces := ["java.io.Serializable"]
      methods := [abstractMethod "int" "intValue" [], abstractMethod "long" "longValue" [],
        abstractMethod "double" "doubleValue" []] }),
  ("java.lang.Integer",
    { modifiers := ["public", "final"]
      superclass := some "java.lang.Number"
      interfaces := ["java.lang.Comparable"]
      fields := [constant "int" "MAX_VALUE", constant "int" "MIN_VALUE"] }),
  ("java.lang.Long",
    { modifiers := ["public", "final"]
      superclass := some "java.lang.Number"
      interfaces := ["java.lang.Comparable"] }),
  ("java.lang.Short",
    { modifiers := ["public", "final"]
      superclass := some "java.lang.Number"
      interfaces := ["java.lang.Comparable"] }),
  ("java.lang.Byte",
    { modifiers := ["public", "final"]
      superclass := some "java.lang.Number"
      interfaces := ["java.lang.Comparable"] }),
  ("java.lang.Double",
    { modifiers := ["public", "final"]
      superclass := some "java.lang.Number"
      interfaces := ["java.lang.Comparable"] }),
  ("java.lang.Float",
    { modifiers := ["public", "final"]
      superclass := some "java.lang.Number"
      interfaces := ["java.lang.Comparable"] }),
  ("java.lang.Boolean",
    { modifiers := ["public", "final"]
      interfaces := ["java.io.Serializable", "java.lang.Comparable"]
      fields := [constant "java.lang.Boolean" "TRUE", constant "java.lang.Boolean" "FALSE"]
      methods := [method "boolean" "booleanValue" []] }),
  ("java.lang.Character",
    { modifiers := ["public", "final"]
      interfaces := ["java.io.Serializable", "java.lang.Comparable"] }),
  ("java.lang.Void", { modifiers := ["public", "final"] }),
  ("java.lang.Enum",
    { modifiers := ["public", "abstract"]
      interfaces := ["java.lang.Comparable", "java.io.Serializable"]
      methods := [method "java.lang.String" "name" [] ["public", "final"],
        method "int" "ordinal" [] ["public", "final"]] }),
  ("java.lang.Class",
    { modifiers := ["public", "final"]
      interfaces := ["java.io.Serializable"]
      methods := [method "java.lang.String" "getName" [],
        method "java.lang.String" "getSimpleName" [],
        method "boolean" "isInterface" [] ["public", "native"]] }),
  ("java.lang.System",
    { modifiers := ["public", "final"]
      methods := [method "long" "currentTimeMillis" [] ["public", "static", "native"],
        method "java.lang.String" "getProperty" ["java.lang.String"] ["public", "static"]] }),
  ("java.lang.Math", { modifiers := ["public", "final"] }),
  ("java.lang.StringBuilder",
    { modifiers := ["public", "final"]
      interfaces := ["java.io.Serializable", "java.lang.CharSequence", "java.lang.Appendable"]
      methods := [constructor "StringBuilder" [],
        method "java.lang.StringBuilder" "append" ["java.lang.String"],
        method "java.lang.String" "toString" []] }),
  ("java.lang.Thread",
    { interfaces := ["java.lang.Runnable"]
      methods := [constructor "Thread" [], constructor "Thread" ["java.lang.Runnable"],
        method "void" "start" [] ["public", "synchronized"], method "void" "run" [],
        method "java.lang.String" "getName" [] ["public", "final"],
        method "void" "setName" ["java.lang.String"] ["public", "final", "synchronized"],
        method "boolean" "isDaemon" [] ["public", "final"],
        method "void" "setDaemon" ["boolean"] ["public", "final"]] }),
  ("java.lang.Throwable",
    { interfaces := ["java.io.Serializable"]
      methods := [constructor "Throwable" [], constructor "Throwable" ["java.lang.String"],
        method "java.lang.String" "getMessage" [],
        method "java.lang.Throwable" "getCause" [] ["public", "synchronized"]] }),
  ("java.lang.Exception", { superclass := some "java.lang.Throwable" }),
  ("java.lang.Error", { superclass := some "java.lang.Throwable" }),
  ("java.lang.RuntimeException", { superclass := some "java.lang.Exception" }),
  ("java.lang.IllegalArgumentException", { superclass := some "java.lang.RuntimeException" }),
  ("java.lang.IllegalStateException", { superclass := some "java.lang.RuntimeException" }),
  ("java.lang.NullPointerException", { superclass := some "java.lang.RuntimeException" }),
  ("java.lang.UnsupportedOperationException",
    { superclass := some "java.lang.RuntimeException" }),
  ("java.lang.IndexOutOfBoundsException", { superclass := some "java.lang.RuntimeException" }),
  ("java.lang.annotation.Annotation", { kind := .interfaceType }),
  ("java.lang.Override",
    { kind := .annotationType
      interfaces := ["java.lang.annotation.Annotation"] }),
  ("java.lang.Deprecated",
    { kind := .annotationType
      interfaces := ["java.lang.annotation.Annotation"] }),
  ("java.lang.FunctionalInterface",
    { kind := .annotationType
      interfaces := ["java.lang.annotation.Annotation"] }),
  ("java.lang.SuppressWarnings",
    { kind := .annotationType
      interfaces := ["java.lang.annotation.Annotation"]
      methods := [abstractMethod "java.lang.String[]" "value" []] })]

/-- Types of the package `java.io`. -/
def ioTypes : List (String × Entry) := [
  ("java.io.Serializable", { kind := .interfaceType }),
  ("java.io.Closeable",
    { kind := .interfaceType
      interfaces := ["java.lang.AutoCloseable"]
      methods := [abstractMethod "void" "close" []] }),
  ("java.io.Flushable", { kind := .interfaceType }),
  ("java.io.IOException", { superclass := some "java.lang.Exception" }),
  ("java.io.FileNotFoundException", { superclass := some "java.io.IOException" }),
  ("java.io.File",
    { interfaces := ["java.io.Serializable", "java.lang.Comparable"]
      methods := [constructor "File" ["java.lang.String"], method "java.lang.String" "getName" [],
        method "java.lang.String" "getPath" [], method "boolean" "exists" [],
        method "boolean" "isDirectory" []] }),
  ("java.io.InputStream",
    { modifiers := ["public", "abstract"]
      interfaces := ["java.io.Closeable"]
      methods := [abstractMethod "int" "read" []] }),
  ("java.io.OutputStream",
    { modifiers := ["public", "abstract"]
      interfaces := ["java.io.Closeable", "java.io.Flushable"]
      methods := [abstractMethod "void" "write" ["int"]] }),
  ("java.io.Reader",
    { modifiers := ["public", "abstract"]
      interfaces := ["java.lang.Readable", "java.io.Closeable"] }),
  ("java.io.Writer",
    { modifiers := ["public", "abstract"]
      interfaces := ["java.lang.Appendable", "java.io.Closeable", "java.io.Flushable"] })]

/-- Types of the package `java.util`. -/
def utilTypes : List (String × Entry) := [
  ("java.util.Iterator",
    { kind := .interfaceType
      methods := [abstractMethod "boolean" "hasNext" [], abstractMethod "E" "next" []] }),
  ("java.util.ListIterator", { kind := .interfaceType, interfaces := ["java.util.Iterator"] }),
  ("java.util.Comparator",
    { kind := .interfaceType
      methods := [abstractMethod "int" "compare" ["T", "T"]] }),
  ("java.util.RandomAccess", { kind := .interfaceType }),
  ("java.util.Collection",
    { kind := .interfaceType
      interfaces := ["java.lang.Iterable"]
      methods := [abstractMethod "int" "size" [], abstractMethod "boolean" "isEmpty" [],
        abstractMethod "boolean" "contains" ["java.lang.Object"],
        abstractMethod "boolean" "add" ["E"],
        abstractMethod "boolean" "remove" ["java.lang.Object"],
        abstractMethod "void" "clear" []] }),
  ("java.util.List",
    { kind := .interfaceType
      interfaces := ["java.util.Collection"]
      methods := [abstractMethod "E" "get" ["int"], abstractMethod "E" "set" ["int", "E"],
        abstractMethod "int" "indexOf" ["java.lang.Object"]] }),
  ("java.util.Set", { kind := .interfaceType, interfaces := ["java.util.Collection"] }),
  ("java.util.SortedSet", { kind := .interfaceType, interfaces := ["java.util.Set"] }),
  ("java.util.Queue",
    { kind := .interfaceType
      interfaces := ["java.util.Collection"]
      methods := [abstractMethod "boolean" "offer" ["E"], abstractMethod "E" "poll" []] }),
  ("java.util.Deque", { kind := .interfaceType, interfaces := ["java.util.Queue"] }),
  ("java.util.Map",
    { kind := .interfaceType
      methods := [abstractMethod "int" "size" [], abstractMethod "V" "get" ["java.lang.Object"],
        abstractMethod "V" "put" ["K", "V"], abstractMethod "java.util.Set" "keySet" [],
        abstractMethod "java.util.Set" "entrySet" []] }),
  ("java.util.Map.Entry",
    { kind := .interfaceType
      modifiers := ["public", "static"]
      methods := [abstractMethod "K" "getKey" [], abstractMethod "V" "getValue" [],
        abstractMethod "V" "setValue" ["V"]] }),
  ("java.util.SortedMap", { kind := .interfaceType, interfaces := ["java.util.Map"] }),
  ("java.util.AbstractCollection",
    { modifiers := ["public", "abstract"]
      interfaces := ["java.util.Collection"] }),
  ("java.util.AbstractList",
    { modifiers := ["public", "abstract"]
      superclass := some "java.util.AbstractCollection"
      interfaces := ["java.util.List"] }),
  ("java.util.AbstractSequentialList",
    { modifiers := ["public", "abstract"]
      superclass := some "java.util.AbstractList" }),
  ("java.util.ArrayList",
    { superclass := some "java.util.AbstractList"
      interfaces := ["java.util.List", "java.util.RandomAccess", "java.lang.Cloneable",
        "java.io.Serializable"]
      methods := [constructor "ArrayList" [], constructor "ArrayList" ["int"],
        constructor "ArrayList" ["java.util.Collection"], method "void" "trimToSize" [],
        method "void" "ensureCapacity" ["int"]] }),
  ("java.util.LinkedList",
    { superclass := some "java.util.AbstractSequentialList"
      interfaces := ["java.util.List", "java.util.Deque", "java.lang.Cloneable",
        "java.io.Serializable"] }),
  ("java.util.AbstractSet",
    { modifiers := ["public", "abstract"]
      superclass := some "java.util.AbstractCollection"
      interfaces := ["java.util.Set"] }),
  ("java.util.HashSet",
    { superclass := some "java.util.AbstractSet"
      interfaces := ["java.util.Set", "java.lang.Cloneable", "java.io.Serializable"] }),
  ("java.util.TreeSet",
    { superclass := some "java.util.AbstractSet"
      interfaces := ["java.util.SortedSet", "java.lang.Cloneable", "java.io.Serializable"] }),
  ("java.util.AbstractMap",
    { modifiers := ["public", "abstract"]
      interfaces := ["java.util.Map"] }),
  ("java.util.HashMap",
    { superclass := some "java.util.AbstractMap"
      interfaces := ["java.util.Map", "java.lang.Cloneable", "java.io.Serializable"] }),
  ("java.util.LinkedHashMap",
    { superclass := some "java.util.HashMap"
      interfaces := ["java.util.Map"] }),
  ("java.util.TreeMap",
    { superclass := some "java.util.AbstractMap"
      interfaces := ["java.util.SortedMap", "java.lang.Cloneable", "java.io.Serializable"] }),
  ("java.util.Optional",
    { modifiers := ["public", "final"]
      methods := [method "boolean" "isPresent" [], method "T" "get" []] }),
  ("java.util.Objects", { modifiers := ["public", "final"] }),
  ("java.util.Collections", { modifiers := ["public"] }),
  ("java.util.Arrays", { modifiers := ["public"] }),
  ("java.util.Date",
    { interfaces := ["java.io.Serializable", "java.lang.Cloneable", "java.lang.Comparable"]
      methods := [constructor "Date" [], method "long" "getTime" [],
        method "void" "setTime" ["long"]] })]

/-- The catalog of core types. -/
def core : List (String × Entry) := langTypes ++ ioTypes ++ utilTypes

/-- The entry of a full name in a catalog. -/
def entry? (entries : List (String × Entry)) (fullName : String) : Option Entry :=
  entries.lookup fullName

end JavaAtlas.Catalog
