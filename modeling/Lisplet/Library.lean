namespace Lisplet.Library

/-! The definitions that are in place before a program runs, written in the language itself. -/

def text : String :=
  "; Loaded into the global environment before anything else runs.

(def defmacro
  (macro (name params & body)
    `(def ,name (macro ,params ,@body))))

(defmacro defn (name params & body)
  `(def ,name (fn ,params ,@body)))

(defmacro do (& body)
  `((fn () nil ,@body)))

; Lists

(defn second (l) (first (rest l)))
(defn third (l) (first (rest (rest l))))
(defn length (l) (send l :length))

(defn map (f l)
  (if (empty? l)
    ()
    (cons (f (first l)) (map f (rest l)))))

(defn filter (f l)
  (if (empty? l)
    ()
    (if (f (first l))
      (cons (first l) (filter f (rest l)))
      (filter f (rest l)))))

(defn reduce (f acc l)
  (if (empty? l)
    acc
    (reduce f (f acc (first l)) (rest l))))

(defn reverse (l)
  (reduce (fn (acc x) (cons x acc)) () l))

; Logic

(defn not (x) (if x false true))
(defn nil? (x) (send x :nil?))

(defmacro when (test & body)
  `(if ,test (do ,@body)))

(defmacro unless (test & body)
  `(if ,test nil (do ,@body)))

(defmacro cond (& clauses)
  (if (empty? clauses)
    nil
    `(if ,(first clauses)
       ,(second clauses)
       (cond ,@(rest (rest clauses))))))

(defmacro and (& xs)
  (if (empty? xs)
    true
    (if (empty? (rest xs))
      (first xs)
      `(if ,(first xs) (and ,@(rest xs)) false))))

(defmacro or (& xs)
  (if (empty? xs)
    nil
    `((fn (or-value)
        (if or-value or-value (or ,@(rest xs))))
      ,(first xs))))

(defmacro let (bindings & body)
  `((fn ,(map first bindings) ,@body) ,@(map second bindings)))

; Arithmetic and comparison

(defn + (x & xs) (reduce (fn (a b) (send a :+ b)) x xs))
(defn * (x & xs) (reduce (fn (a b) (send a :* b)) x xs))

(defn - (x & xs)
  (if (empty? xs)
    (send 0 :- x)
    (reduce (fn (a b) (send a :- b)) x xs)))

(defn / (a b) (send a :/ b))
(defn % (a b) (send a :% b))

(defn inc (x) (send x :+ 1))
(defn dec (x) (send x :- 1))

(defn < (a b) (send a :< b))
(defn <= (a b) (send a :<= b))
(defn > (a b) (send a :> b))
(defn >= (a b) (send a :>= b))
(defn == (a b) (send a :== b))
(defn != (a b) (send a :!= b))

; Strings

(defn to-s (x) (send x :to_s))
(defn str (& xs) (reduce (fn (acc x) (send acc :+ (send x :to_s))) \"\" xs))
"

end Lisplet.Library
